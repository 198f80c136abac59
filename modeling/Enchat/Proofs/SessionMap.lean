import Enchat.Proofs.Authentication

/-!
# The map of sessions

An entry of the map always names a session that holds the id of the entry. The converse, that a
session in use has an entry, needs that no other session takes or erases the id.
-/

namespace Enchat
open Transition ListUpdate

variable {QString Ctx : Type} (P : Primitives (List UInt8) QString Ctx)

/-- The session under whose id `onHandShake` closes when it refuses a packet. -/
def ChatSession.refused {QByteArray : Type} (Q : Primitives QByteArray QString Ctx)
    (contains : QByteArray → Bool) (s : ChatSession QByteArray QString Ctx)
    (hp : HelloPacket QByteArray) : ChatSession QByteArray QString Ctx :=
  if Q.isEmpty s.peerStaticPubkey && !contains hp.staticKey then s else s.adoptPeer Q hp

lemma ChatSession.refused_of_not_admits {contains : List UInt8 → Bool}
    {s : ChatSession (List UInt8) QString Ctx} {hp : HelloPacket (List UInt8)}
    (h : ¬s.Admits P contains hp) : s.refused P contains hp = s := by
  rw [ChatSession.refused, if_pos (by simpa [ChatSession.Admits] using h)]

lemma ChatSession.refused_of_admits {contains : List UInt8 → Bool}
    {s : ChatSession (List UInt8) QString Ctx} {hp : HelloPacket (List UInt8)}
    (h : s.Admits P contains hp) : s.refused P contains hp = s.adoptPeer P hp := by
  rw [ChatSession.refused, if_neg (by simpa [ChatSession.Admits] using h)]

namespace Conn

/-- The read has received a whole packet that the handshake refuses. -/
def Refuses (contains : List UInt8 → Bool) (c : Conn QString Ctx) (op : ReadOp) : Prop :=
  op.handler = .onHandShake ∧ op.got.length = op.need ∧
    ¬(c.sess.Admits P contains op.hello ∧ c.sess.Verifies P op.hello)

/-- The read has received a whole packet that completes the handshake. -/
def Accepts (contains : List UInt8 → Bool) (c : Conn QString Ctx) (op : ReadOp) : Prop :=
  op.handler = .onHandShake ∧ op.got.length = op.need ∧ c.sess.Admits P contains op.hello ∧
    c.sess.Verifies P op.hello ∧ (P.x25519 c.sess.ephemeralPriKey op.hello.ephemeralKey).2 = true

instance (contains : List UInt8 → Bool) (c : Conn QString Ctx) (op : ReadOp) :
    Decidable (c.Refuses P contains op) :=
  inferInstanceAs (Decidable (_ ∧ _ ∧ ¬(_ ∧ _)))

instance (contains : List UInt8 → Bool) (c : Conn QString Ctx) (op : ReadOp) :
    Decidable (c.Accepts P contains op) :=
  inferInstanceAs (Decidable (_ ∧ _ ∧ _ ∧ _ ∧ _))

lemma Step.effects_of_refuses {contains : List UInt8 → Bool} {c c' : Conn QString Ctx} {i : ℕ}
    {op : ReadOp} {effs : List (Effect (List UInt8) QString)}
    (hs : Step P contains c (.readDone i) c' effs) (hop : c.reads[i]? = some op)
    (hrefuse : c.Refuses P contains op) : effs = (c.sess.refused P contains op.hello).close := by
  obtain ⟨hh, _, hbad⟩ := hrefuse
  cases hs with
  | unlisted hop' _ _ ha =>
    obtain rfl := Option.some.inj (hop.symm.trans hop')
    rw [ChatSession.refused_of_not_admits P ha]
  | badSignature hop' _ _ ha _ =>
    obtain rfl := Option.some.inj (hop.symm.trans hop')
    rw [ChatSession.refused_of_admits P ha]
  | noSharedKey hop' _ _ ha hv _ =>
    obtain rfl := Option.some.inj (hop.symm.trans hop')
    exact absurd ⟨ha, hv⟩ hbad
  | finished hop' _ _ ha hv _ =>
    obtain rfl := Option.some.inj (hop.symm.trans hop')
    exact absurd ⟨ha, hv⟩ hbad
  | headDone hop' _ hh' =>
    obtain rfl := Option.some.inj (hop.symm.trans hop')
    simp [hh] at hh'
  | bodyDone hop' _ hh' _ =>
    obtain rfl := Option.some.inj (hop.symm.trans hop')
    simp [hh] at hh'
  | bodySkipped hop' _ hh' _ =>
    obtain rfl := Option.some.inj (hop.symm.trans hop')
    simp [hh] at hh'

/-- What a step of session `s` does to the map. -/
inductive MapStep (contains : List UInt8 → Bool) (c c' : Conn QString Ctx) (ev : SocketEvent)
    (role : Role) (s : ℕ) (m m' : SessMap QString) [DecidableEq QString] : Prop
  | same : m' = m → c'.isOpen = c.isOpen → c'.finishes = c.finishes →
      (∃ calls, c'.calls = c.calls ++ calls ∧ ∀ call ∈ calls, ClientCall.isFinished call = false) →
      MapStep contains c c' ev role s m m'
  | erased {i : ℕ} {op : ReadOp} : ev = .readDone i → c.reads[i]? = some op →
      c.Refuses P contains op → m' = m.erase (c.sess.refused P contains op.hello).id →
      c'.isOpen = false → c'.finishes = c.finishes →
      c'.calls = c.calls ++ [.onClose (c.sess.refused P contains op.hello).id] →
      MapStep contains c c' ev role s m m'
  | inserted {i : ℕ} {op : ReadOp} : ev = .readDone i → c.reads[i]? = some op →
      c.Accepts P contains op → c'.sess.id = (c.sess.adoptPeer P op.hello).id →
      m' = (if role = .chatServer then
        SessMap.stdInsert m (c.sess.adoptPeer P op.hello).id s else m) →
      c'.isOpen = c.isOpen → c'.finishes = c.finishes + 1 →
      c'.calls = c.calls ++ [.onHandShakeFinished (c.sess.adoptPeer P op.hello).id] →
      MapStep contains c c' ev role s m m'

theorem Step.map [DecidableEq QString] {contains : List UInt8 → Bool} {c c' : Conn QString Ctx}
    {ev : SocketEvent} {effs : List (Effect (List UInt8) QString)}
    (hs : Step P contains c ev c' effs) (role : Role) (s : ℕ) (m : SessMap QString) :
    MapStep P contains c c' ev role s m
      ((Endpoint.clientCalls effs).foldl (SessMap.afterCall role s) m) := by
  have hcalls := hs.calls P
  cases hs with
  | connectDone _ _ =>
    exact .same rfl rfl (by simp [finishes, ClientCall.isFinished])
      ⟨[.onConnected c.sess.id], rfl, by simp [ClientCall.isFinished]⟩
  | @unlisted i op hop hf hh ha =>
    have href := ChatSession.refused_of_not_admits P ha
    refine .erased rfl hop ⟨hh, hf, fun h => ha h.1⟩ ?_ rfl ?_ ?_
    · rw [href]
      rfl
    · simp [finishes, ClientCall.isFinished]
    · rw [href]
  | @badSignature i op hop hf hh ha hv =>
    have href := ChatSession.refused_of_admits P ha
    refine .erased rfl hop ⟨hh, hf, fun h => hv h.2⟩ ?_ rfl ?_ ?_
    · rw [href]
      rfl
    · simp [finishes, ClientCall.isFinished]
    · rw [href]
  | @finished i op hop hf hh ha hv hx =>
    refine .inserted rfl hop ⟨hh, hf, ha, hv, hx⟩ rfl ?_ rfl ?_ rfl
    · rw [← List.append_cancel_left hcalls]
      rfl
    · simp [finishes, ClientCall.isFinished]
  | @bodyDone i op _ _ _ hp =>
    rw [ChatSession.handleReadMsg_effects P _ hp]
    exact .same rfl rfl (by simp [finishes, ClientCall.isFinished])
      ⟨[.onTextMsg _ _], rfl, by simp [ClientCall.isFinished]⟩
  | _ => exact .same rfl rfl rfl ⟨[], by simp, by simp⟩

end Conn

namespace Endpoint

variable [DecidableEq QString]

/-- No other session has the entry for `id`. -/
def MapsToOnly (e : Endpoint QString Ctx) (id : QString) (s : ℕ) : Prop :=
  ∀ s' ∈ e.sessMap.lookup id, s' = s

instance (e : Endpoint QString Ctx) (id : QString) (s : ℕ) : Decidable (e.MapsToOnly id s) :=
  inferInstanceAs (Decidable (∀ s' ∈ e.sessMap.lookup id, s' = s))

/-- Every entry names a session with the id of the entry. -/
def Owned (e : Endpoint QString Ctx) : Prop :=
  ∀ id s, e.sessMap.lookup id = some s → ∃ c, e.sessions[s]? = some c ∧ c.sess.id = id ∧
    (e.role = .chatServer → 0 < c.finishes)

variable {P} {C : Endpoint QString Ctx → Event QString Ctx → Prop} {role : Role} {name : QString}
  {es : List (Event QString Ctx)} {e : Endpoint QString Ctx}

lemma id_of_step (h : GuardedRuns P C role name es e) {s : ℕ} {c c' : Conn QString Ctx}
    {ev : SocketEvent} {effs : List (Effect (List UInt8) QString)} (hc : e.sessions[s]? = some c)
    (hs : Conn.Step P (e.containsPeerPubkey P) c ev c' effs)
    (hfin : e.role = .chatServer → 0 < c.finishes) : c'.sess.id = c.sess.id := by
  cases hr : e.role with
  | chatServer => rw [hs.sess_of_finished P (ordered P h hc) (hfin hr)]
  | chatClient =>
    rcases hs.identity with ⟨_, hid⟩ | ⟨i, op, _, _, _, ha, _, hid⟩
    · exact hid
    · have hcontains : e.containsPeerPubkey P = ChatClient.containsPeerPubkey := by
        simp [Endpoint.containsPeerPubkey, hr]
      rw [hcontains] at ha
      rw [hid, ChatSession.adoptPeer_of_admits P ha]

lemma Owned.of_snoc (h : e.Owned) (c : Conn QString Ctx) {id : QString} {t : ℕ}
    (hl : e.sessMap.lookup id = some t) :
    ∃ c₀, (e.sessions ++ [c])[t]? = some c₀ ∧ c₀.sess.id = id ∧
      (e.role = .chatServer → 0 < c₀.finishes) := by
  obtain ⟨c₀, hc₀, hid, hfin⟩ := h id t hl
  have hlt := (List.getElem?_eq_some_iff.mp hc₀).1
  exact ⟨c₀, (List.getElem?_append_left hlt).trans hc₀, hid, hfin⟩

lemma Owned.of_set (h : e.Owned) {s : ℕ} {c : Conn QString Ctx} (hc : e.sessions[s]? = some c)
    (c' : Conn QString Ctx) (hid : (e.role = .chatServer → 0 < c.finishes) → c'.sess.id = c.sess.id)
    (hfin : c.finishes ≤ c'.finishes) {id : QString} {t : ℕ}
    (hl : e.sessMap.lookup id = some t) :
    ∃ c₀, (e.sessions.set s c')[t]? = some c₀ ∧ c₀.sess.id = id ∧
      (e.role = .chatServer → 0 < c₀.finishes) := by
  obtain ⟨c₀, hc₀, hid₀, hfin₀⟩ := h id t hl
  by_cases hts : s = t
  · subst hts
    obtain rfl := Option.some.inj (hc₀.symm.trans hc)
    exact ⟨c', getElem?_set_of_some hc, (hid hfin₀).trans hid₀,
      fun hr => Nat.lt_of_lt_of_le (hfin₀ hr) hfin⟩
  · exact ⟨c₀, (List.getElem?_set_ne hts).trans hc₀, hid₀, hfin₀⟩

lemma Owned.closeSession (h : e.Owned) (s : ℕ) : (e.closeSession s).Owned := by
  refine closeSession_cases (M := Owned) h ?_
  intro c hc id t hl
  rw [SessMap.lookup_erase_eq] at hl
  split at hl
  · cases hl
  · have hfin : c.finishes ≤ c.closed.finishes := by
      simp [Conn.closed_eq, Conn.finishes, ClientCall.isFinished]
    exact h.of_set hc c.closed (fun _ => rfl) hfin hl

lemma Owned.update (h : GuardedRuns P C role name es e) (hown : e.Owned) {s : ℕ}
    {c c' : Conn QString Ctx} {ev : SocketEvent} {effs : List (Effect (List UInt8) QString)}
    (hc : e.sessions[s]? = some c) (hconn : Conn.Step P (e.containsPeerPubkey P) c ev c' effs) :
    (e.update s c' effs).Owned := by
  have hkeep : ∀ id t, e.sessMap.lookup id = some t → ∃ c₀, (e.sessions.set s c')[t]? = some c₀ ∧
      c₀.sess.id = id ∧ (e.role = .chatServer → 0 < c₀.finishes) :=
    fun id t hl => hown.of_set hc c' (id_of_step h hc hconn) hconn.finishes_le hl
  rw [update_eq]
  intro id t hl
  cases hconn.map P e.role s e.sessMap with
  | same hm _ _ _ =>
    rw [hm] at hl
    exact hkeep id t hl
  | erased _ _ _ hm _ _ _ =>
    rw [hm, SessMap.lookup_erase_eq] at hl
    split at hl
    · cases hl
    · exact hkeep id t hl
  | inserted _ _ _ hid' hm _ hfin _ =>
    rw [hm] at hl
    split at hl
    · rw [SessMap.lookup_stdInsert] at hl
      split at hl
      · rename_i _ hid
        cases hm : e.sessMap.lookup id with
        | some t' =>
          rw [← hid, hm] at hl
          exact hkeep id t (hm.trans hl)
        | none =>
          rw [← hid, hm] at hl
          obtain rfl := Option.some.inj hl
          exact ⟨c', getElem?_set_of_some hc, hid'.trans hid.symm, fun _ => by omega⟩
      · exact hkeep id t hl
    · exact hkeep id t hl

theorem owned (h : GuardedRuns P C role name es e) : e.Owned := by
  refine h.invariant_history (I := fun _ e => e.Owned) ?_ ?_
  · intro id s hl
    simp [init] at hl
  · intro es e ev e' hr ih hs
    cases step_step P hs.1 with
    | accept _ => exact fun id t hl => ih.of_snoc _ hl
    | @doConnect id pri dctx ectx hrole =>
      intro id' t hl
      rw [SessMap.lookup_stdInsert] at hl
      by_cases hid : id' = id
      · rw [if_pos hid] at hl
        cases hm : e.sessMap.lookup id with
        | some t' =>
          rw [hm] at hl
          rw [hid]
          exact ih.of_snoc _ (hm.trans hl)
        | none =>
          rw [hm] at hl
          obtain rfl := Option.some.inj hl
          refine ⟨_, List.getElem?_concat_length, hid.symm, fun hr => ?_⟩
          rw [hrole] at hr
          cases hr
      · rw [if_neg hid] at hl
        exact ih.of_snoc _ hl
    | socket hc hconn => exact ih.update hr hc hconn
    | @sendTextMsg id text s hl₀ =>
      obtain ⟨c, hc, _, _⟩ := ih id s hl₀
      intro id' t hl
      rw [modify_eq_set_of_some hc]
      exact ih.of_set hc (c.encryptText P text) (fun _ => rfl) (Nat.le_refl _) hl
    | close _ =>
      refine closeAll_induct (M := Owned) (fun e s h => h.closeSession s) ?_ ih
      intro e _ id s hl
      simp at hl
    | _ => exact ih

/-- `m'` is `m` without the entries of session `s`. -/
def RemovesOnly (m m' : SessMap QString) (s : ℕ) : Prop :=
  ∀ id, m'.lookup id = if m.lookup id = some s then none else m.lookup id

/-- Erasing an id removes exactly the entries of a session if and only if no other session has the
entry for it, provided that the session has no other entry. -/
lemma removesOnly_erase_iff {s : ℕ} {id₀ : QString}
    (hown : ∀ id, e.sessMap.lookup id = some s → id = id₀) :
    RemovesOnly e.sessMap (e.sessMap.erase id₀) s ↔ e.MapsToOnly id₀ s := by
  constructor
  · intro hall s' hl
    have hid := hall id₀
    rw [AList.lookup_erase, hl] at hid
    by_contra hne
    rw [if_neg (by simpa using hne)] at hid
    cases hid
  · intro honly id
    rw [SessMap.lookup_erase_eq]
    by_cases hid : id = id₀
    · rw [if_pos hid]
      cases hl : e.sessMap.lookup id with
      | none => simp
      | some s' => rw [honly s' (hid ▸ hl), if_pos rfl]
    · rw [if_neg hid, if_neg (fun hl => hid (hown id hl))]

lemma Owned.id_unique (h : e.Owned) {s : ℕ} {c : Conn QString Ctx} (hc : e.sessions[s]? = some c)
    (id : QString) (hl : e.sessMap.lookup id = some s) : id = c.sess.id := by
  obtain ⟨c₀, hc₀, hid, _⟩ := h id s hl
  obtain rfl := Option.some.inj (hc₀.symm.trans hc)
  exact hid.symm

lemma sessMap_refused {s i : ℕ} {c : Conn QString Ctx} {op : ReadOp} {e' : Endpoint QString Ctx}
    (hc : e.sessions[s]? = some c) (hop : c.reads[i]? = some op)
    (hrefuse : c.Refuses P (e.containsPeerPubkey P) op)
    (hstep : e.step P (.socket s (.readDone i)) = some e') :
    e'.sessMap = e.sessMap.erase (c.sess.refused P (e.containsPeerPubkey P) op.hello).id := by
  cases step_step P hstep with
  | socket hc₁ hconn =>
    obtain rfl := Option.some.inj (hc.symm.trans hc₁)
    rw [update_eq, hconn.effects_of_refuses P hop hrefuse]
    rfl

/-- A session that refuses a packet has no entry under another id. -/
lemma id_of_refuses (h : GuardedRuns P C role name es e) {s i : ℕ} {c : Conn QString Ctx}
    {op : ReadOp} (hc : e.sessions[s]? = some c) (hop : c.reads[i]? = some op)
    (hrefuse : c.Refuses P (e.containsPeerPubkey P) op) (id : QString)
    (hl : e.sessMap.lookup id = some s) :
    id = (c.sess.refused P (e.containsPeerPubkey P) op.hello).id := by
  obtain ⟨c₀, hc₀, hid, hfin⟩ := owned h id s hl
  obtain rfl := Option.some.inj (hc₀.symm.trans hc)
  have hord := ordered P h hc
  cases hr : e.role with
  | chatServer =>
    have hpos := hfin hr
    have hzero := hord.waiting_unfinished (Conn.helloReads_pos hop hrefuse.1)
    omega
  | chatClient =>
    have hcontains : e.containsPeerPubkey P = ChatClient.containsPeerPubkey := by
      simp [Endpoint.containsPeerPubkey, hr]
    by_cases ha : c₀.sess.Admits P (e.containsPeerPubkey P) op.hello
    · rw [ChatSession.refused_of_admits P ha, ChatSession.adoptPeer_of_admits P (hcontains ▸ ha)]
      exact hid.symm
    · rw [ChatSession.refused_of_not_admits P ha]
      exact hid.symm

/-- Whether a close takes exactly the entries of its session out of the map, for `close` after the
sessions `closed` have been closed and for `close` on a refused packet. -/
theorem close_removes_own_entries (h : Runs P role name es e) (closed : List ℕ) {s : ℕ}
    {c c₁ : Conn QString Ctx} (hc : e.sessions[s]? = some c)
    (hc₁ : (closed.foldl Endpoint.closeSession e).sessions[s]? = some c₁) :
    (RemovesOnly (closed.foldl Endpoint.closeSession e).sessMap
        ((closed.foldl Endpoint.closeSession e).closeSession s).sessMap s ↔
      (closed.foldl Endpoint.closeSession e).MapsToOnly c₁.sess.id s) ∧
    ∀ (i : ℕ) op e', c.reads[i]? = some op → c.Refuses P (e.containsPeerPubkey P) op →
      e.step P (.socket s (.readDone i)) = some e' →
      (RemovesOnly e.sessMap e'.sessMap s ↔
        e.MapsToOnly (c.sess.refused P (e.containsPeerPubkey P) op.hello).id s) ∧
      ((∀ id s', s' ≠ s → e.sessMap.lookup id = some s' → e'.sessMap.lookup id = some s') ↔
        e.MapsToOnly (c.sess.refused P (e.containsPeerPubkey P) op.hello).id s) := by
  have howned : (closed.foldl Endpoint.closeSession e).Owned := by
    have howned₀ : e.Owned := owned h.guarded
    clear h hc hc₁
    induction closed generalizing e with
    | nil => exact howned₀
    | cons t closed ih => exact ih (howned₀.closeSession t)
  refine ⟨?_, ?_⟩
  · rw [closeSession_eq hc₁]
    exact removesOnly_erase_iff (howned.id_unique hc₁)
  · intro i op e' hop hrefuse hstep
    have hmap := sessMap_refused hc hop hrefuse hstep
    rw [hmap]
    refine ⟨removesOnly_erase_iff (id_of_refuses h.guarded hc hop hrefuse), ?_, ?_⟩
    · intro hall s' hl
      by_contra hne
      have hkept := hall _ s' hne hl
      rw [AList.lookup_erase] at hkept
      cases hkept
    · intro honly id s' hne hl
      rw [AList.lookup_erase_ne]
      · exact hl
      · rintro rfl
        exact hne (honly s' hl)

/-- Session 0 has finished its handshake under key 7. Session 1 receives a packet that claims key 8
and whose signature is wrong; session 0 keeps its entry. -/
theorem close_removes_own_entries_forged :
    ∃ (es : List (Event (List UInt8) ChachaContext)) (e e' : Endpoint (List UInt8) ChachaContext),
      Runs samplePrimitives .chatServer [] es e ∧
      e.step samplePrimitives (.socket 1 (.readDone 0)) = some e' ∧
      RemovesOnly e.sessMap e'.sessMap 1 ∧ e'.sessMap.lookup (sampleKey 7) = some 0 := by
  let test (e : Endpoint (List UInt8) ChachaContext) : Bool :=
    (e.sessions[1]?).any fun c => (c.reads[0]?).any fun op =>
      decide (c.Refuses samplePrimitives (e.containsPeerPubkey samplePrimitives) op) &&
      (e.step samplePrimitives (.socket 1 (.readDone 0))).isSome &&
      decide (e.sessMap.lookup (c.sess.refused samplePrimitives
        (e.containsPeerPubkey samplePrimitives) op.hello).id = none) &&
      decide (e.sessMap.lookup (sampleKey 7) = some 0)
  obtain ⟨e, hrun, hp⟩ := exists_run_of_exec (Endpoint.step samplePrimitives)
    [.updatePeerList [⟨[], sampleKey 7, [], 0⟩, ⟨[], sampleKey 8, [], 0⟩],
      .accept (sampleKey 3) sampleContext sampleContext,
      .socket 0 (.readSome 0 (sampleHello 1 7 5).pack), .socket 0 (.readDone 0),
      .accept (sampleKey 4) sampleContext sampleContext,
      .socket 1 (.readSome 0 (sampleForged 1 8 6).pack)]
    test (s := Endpoint.init .chatServer []) (by decide +kernel)
  obtain ⟨c, hc, hp⟩ := (Option.any_eq_true _ _).mp hp
  obtain ⟨op, hop, hp⟩ := (Option.any_eq_true _ _).mp hp
  simp only [Bool.and_eq_true, decide_eq_true_eq] at hp
  obtain ⟨⟨⟨hrefuse, hstep⟩, hnone⟩, hl⟩ := hp
  obtain ⟨e', hstep⟩ := Option.isSome_iff_exists.mp hstep
  have honly : e.MapsToOnly (c.sess.refused samplePrimitives
      (e.containsPeerPubkey samplePrimitives) op.hello).id 1 := by
    intro s' hl'
    rw [hnone] at hl'
    cases hl'
  obtain ⟨hremoves, hkeeps⟩ :=
    (close_removes_own_entries hrun [] hc hc).2 0 op e' hop hrefuse hstep
  exact ⟨_, e, e', hrun, hstep, hremoves.mpr honly, hkeeps.mpr honly _ 0 (by decide) hl⟩

/-- Session 1 receives a packet that claims key 7 and whose signature is wrong; afterwards session 0,
which has finished its handshake under key 7, has no entry any more. -/
theorem forged_hello_erases_entry :
    ∃ (es : List (Event (List UInt8) ChachaContext)) (e e' : Endpoint (List UInt8) ChachaContext)
      (c : Conn (List UInt8) ChachaContext) (op : ReadOp),
      Runs samplePrimitives .chatServer [] es e ∧ e.sessions[1]? = some c ∧
      c.reads[0]? = some op ∧ c.sess.Admits samplePrimitives (e.containsPeerPubkey samplePrimitives)
        op.hello ∧ ¬c.sess.Verifies samplePrimitives op.hello ∧
      e.step samplePrimitives (.socket 1 (.readDone 0)) = some e' ∧
      e.sessMap.lookup (sampleKey 7) = some 0 ∧ e'.sessMap.lookup (sampleKey 7) = none := by
  let test (e : Endpoint (List UInt8) ChachaContext) : Bool :=
    (e.sessions[1]?).any fun c => (c.reads[0]?).any fun op =>
      decide (c.sess.Admits samplePrimitives (e.containsPeerPubkey samplePrimitives) op.hello) &&
      decide (¬c.sess.Verifies samplePrimitives op.hello) &&
      (e.step samplePrimitives (.socket 1 (.readDone 0))).any
        (fun e' => decide (e'.sessMap.lookup (sampleKey 7) = none)) &&
      decide (e.sessMap.lookup (sampleKey 7) = some 0)
  obtain ⟨e, hrun, hp⟩ := exists_run_of_exec (Endpoint.step samplePrimitives)
    [.updatePeerList [⟨[], sampleKey 7, [], 0⟩],
      .accept (sampleKey 3) sampleContext sampleContext,
      .socket 0 (.readSome 0 (sampleHello 1 7 5).pack), .socket 0 (.readDone 0),
      .accept (sampleKey 4) sampleContext sampleContext,
      .socket 1 (.readSome 0 (sampleForged 1 7 6).pack)]
    test (s := Endpoint.init .chatServer []) (by decide +kernel)
  obtain ⟨c, hc, hp⟩ := (Option.any_eq_true _ _).mp hp
  obtain ⟨op, hop, hp⟩ := (Option.any_eq_true _ _).mp hp
  simp only [Bool.and_eq_true, decide_eq_true_eq] at hp
  obtain ⟨⟨⟨hadmits, hverify⟩, hstep⟩, hold⟩ := hp
  obtain ⟨e', hstep, hnone⟩ := (Option.any_eq_true _ _).mp hstep
  exact ⟨_, e, e', c, op, hrun, hc, hop, hadmits, hverify, hstep, hold, of_decide_eq_true hnone⟩

end Endpoint

end Enchat
