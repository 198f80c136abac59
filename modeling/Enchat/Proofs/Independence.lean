import Enchat.Proofs.KeyMaterial
import Enchat.Proofs.PeerKeys

/-!
# Sessions of different peers do not disturb each other

Sessions share the map, the list of peers and the stream of signals. A step of a session makes one
callback at most, and the callback names the id that the session has after the step.
-/

namespace Enchat
open Transition ListUpdate

variable {QString Ctx : Type}

def Signal.id : Signal QString → QString
  | .sigConnected id => id
  | .sigClose id => id
  | .sigHandshakeFinished id => id
  | .sigTextMsg id _ => id

def ClientCall.id : ClientCall QString → QString
  | .onConnected id => id
  | .onClose id => id
  | .onHandShakeFinished id => id
  | .onTextMsg id _ => id

lemma ClientCall.id_signal (call : ClientCall QString) : call.signal.id = call.id := by
  cases call <;> rfl

section Callbacks

variable [DecidableEq QString]

/-- What a callback does to the entry for its id. -/
def ClientCall.entry (role : Role) (s : ℕ) : ClientCall QString → Option ℕ → Option ℕ
  | .onClose _, _ => none
  | .onHandShakeFinished _, t => if role = .chatServer then some (t.getD s) else t
  | .onConnected _, t => t
  | .onTextMsg _ _, t => t

/-- A callback changes the entry for its id only. -/
lemma SessMap.lookup_afterCall (role : Role) (s : ℕ) (m : SessMap QString)
    (call : ClientCall QString) (id : QString) :
    (m.afterCall role s call).lookup id =
      if id = call.id then call.entry role s (m.lookup id) else m.lookup id := by
  cases call with
  | onClose id' => exact m.lookup_erase_eq id' id
  | onHandShakeFinished id' =>
    change (if role = .chatServer then SessMap.stdInsert m id' s else m).lookup id =
      if id = id' then (if role = .chatServer then some ((m.lookup id).getD s) else m.lookup id)
      else m.lookup id
    by_cases hserver : role = .chatServer
    · rw [if_pos hserver, if_pos hserver, SessMap.lookup_stdInsert]
      by_cases hid : id = id'
      · rw [if_pos hid, if_pos hid, hid]
      · rw [if_neg hid, if_neg hid]
    · rw [if_neg hserver, if_neg hserver, ite_self]
  | onConnected id' => exact (ite_self _).symm
  | onTextMsg id' text => exact (ite_self _).symm

/-- The callbacks of a step after which the session has the id `x`; `empty` is the empty string. -/
structure Speaks (empty x : QString) (calls : List (ClientCall QString)) : Prop where
  one : calls = [] ∨ ∃ call, calls = [call] ∧ call.id = x
  refused : x = empty → calls = [] ∨ calls = [.onClose empty]

/-- The ids of two sessions do not clash. -/
def Apart (empty x y : QString) : Prop := x ≠ y ∨ x = empty ∧ y = empty

variable {empty x y : QString} {A B : List (ClientCall QString)}

omit [DecidableEq QString] in
lemma Apart.symm (h : Apart empty x y) : Apart empty y x := by
  rcases h with hne | ⟨hx, hy⟩
  · exact Or.inl (Ne.symm hne)
  · exact Or.inr ⟨hy, hx⟩

/-- Callbacks under other ids leave an entry alone, and a refused session erases no entry. -/
lemma Speaks.lookup (hB : Speaks empty y B) (h : Apart empty x y) (role : Role) (t : ℕ)
    {m : SessMap QString} (hnone : m.lookup empty = none) :
    (B.foldl (SessMap.afterCall role t) m).lookup x = m.lookup x := by
  rcases h with hne | ⟨rfl, hy⟩
  · rcases hB.one with rfl | ⟨b, rfl, hid⟩
    · rfl
    · rw [List.foldl_cons, List.foldl_nil, SessMap.lookup_afterCall, if_neg (hid ▸ hne)]
  · rcases hB.refused hy with rfl | rfl
    · rfl
    · rw [hnone]
      exact AList.lookup_erase ..

/-- The callbacks of two steps may change places, as far as the map goes. -/
lemma Speaks.lookup_comm (hA : Speaks empty x A) (hB : Speaks empty y B) (h : Apart empty x y)
    (role : Role) (s t : ℕ) (m : SessMap QString) (id : QString) :
    (B.foldl (SessMap.afterCall role t) (A.foldl (SessMap.afterCall role s) m)).lookup id =
      (A.foldl (SessMap.afterCall role s) (B.foldl (SessMap.afterCall role t) m)).lookup id := by
  rcases h with hne | ⟨hx, hy⟩
  · rcases hA.one with rfl | ⟨a, rfl, rfl⟩
    · rfl
    rcases hB.one with rfl | ⟨b, rfl, rfl⟩
    · rfl
    simp only [List.foldl_cons, List.foldl_nil, SessMap.lookup_afterCall]
    by_cases ha : id = a.id
    · have hb : id ≠ b.id := fun hb => hne (ha.symm.trans hb)
      simp only [if_pos ha, if_neg hb]
    · simp only [if_neg ha]
  · rcases hA.refused hx with rfl | rfl
    · rfl
    rcases hB.refused hy with rfl | rfl
    · rfl
    rfl

/-- They may change places, as far as the signals for one id go. -/
lemma Speaks.signals_comm (hA : Speaks empty x A) (hB : Speaks empty y B) (h : Apart empty x y)
    (id : QString) :
    ((A ++ B).map ClientCall.signal).filter (fun sig => sig.id = id) =
      ((B ++ A).map ClientCall.signal).filter (fun sig => sig.id = id) := by
  rcases h with hne | ⟨hx, hy⟩
  · rcases hA.one with rfl | ⟨a, rfl, rfl⟩
    · rw [List.nil_append, List.append_nil]
    rcases hB.one with rfl | ⟨b, rfl, rfl⟩
    · rw [List.nil_append, List.append_nil]
    simp only [List.singleton_append, List.map_cons, List.map_nil, List.filter_cons,
      List.filter_nil, ClientCall.id_signal]
    by_cases ha : a.id = id
    · have hb : b.id ≠ id := fun hb => hne (ha.trans hb.symm)
      simp only [ha, hb, decide_true, decide_false, if_true, Bool.false_eq_true, if_false]
    · simp only [ha, decide_false, Bool.false_eq_true, if_false]
  · rcases hA.refused hx with rfl | rfl
    · rw [List.nil_append, List.append_nil]
    rcases hB.refused hy with rfl | rfl
    · rw [List.nil_append, List.append_nil]
    rfl

end Callbacks

section Server

variable [DecidableEq QString] {q : Qt (List UInt8) QString} {k : Curve} {a : CipherApi Ctx}
  {name : QString} {es : List (Event QString Ctx)} {e : Endpoint QString Ctx}

omit [DecidableEq QString] in
/-- The id that an admitted packet gives to a session is not empty. -/
lemma adoptPeer_named (hempty : ∀ b, q.toBase64 b = q.emptyString → b = [])
    {sess : ChatSession (List UInt8) QString Ctx} {op : ReadOp} (hshape : op.Shaped)
    (hh : op.handler = .onHandShake)
    (hpeer : (bytePrimitives q k a).isEmpty sess.peerStaticPubkey = true) :
    (sess.adoptPeer (bytePrimitives q k a) op.hello).id ≠ q.emptyString := by
  have hadopt : sess.adoptPeer (bytePrimitives q k a) op.hello =
      { sess with
        peerStaticPubkey := op.hello.staticKey
        id := q.toBase64 op.hello.staticKey } := if_pos hpeer
  rw [hadopt]
  intro hid
  have hlength := ReadOp.length_staticKey hshape hh
  rw [hempty _ hid] at hlength
  cases hlength

namespace Endpoint

lemma named_of_finished (hempty : ∀ b, q.toBase64 b = q.emptyString → b = [])
    (h : Runs (bytePrimitives q k a) .chatServer name es e) {s : ℕ} {c : Conn QString Ctx}
    (hc : e.sessions[s]? = some c) (hfin : 0 < c.finishes) : c.sess.id ≠ q.emptyString := by
  have hpast := (identified (bytePrimitives q k a) rfl h hc).finished hfin
  obtain ⟨_, _, _, _, _, c₀, op, _, _, _, hshape, hh, _, _, _, _, hpeer, _, hid, _⟩ :=
    hpast.exists_event
  rw [hid]
  exact adoptPeer_named hempty hshape hh (hpeer rfl)

/-- No session is registered under the empty id. -/
lemma lookup_empty (hempty : ∀ b, q.toBase64 b = q.emptyString → b = [])
    (h : Runs (bytePrimitives q k a) .chatServer name es e) :
    e.sessMap.lookup q.emptyString = none := by
  cases hl : e.sessMap.lookup q.emptyString with
  | none => rfl
  | some s =>
    obtain ⟨c, hc, hid, hfin⟩ := owned h.guarded _ s hl
    exact absurd hid (named_of_finished hempty h hc (hfin (role_eq _ h.guarded)))

lemma speaks (hempty : ∀ b, q.toBase64 b = q.emptyString → b = [])
    (h : Runs (bytePrimitives q k a) .chatServer name es e) {s : ℕ} {c c' : Conn QString Ctx}
    (hc : e.sessions[s]? = some c) {ev : SocketEvent} {effs : List (Effect (List UInt8) QString)}
    (hs : Conn.Step (bytePrimitives q k a) (e.containsPeerPubkey (bytePrimitives q k a)) c ev c'
      effs) :
    Speaks q.emptyString c'.sess.id (clientCalls effs) := by
  have hident := identified (bytePrimitives q k a) rfl h hc
  have hcalls := hs.calls
  have hnew : ∀ {i : ℕ} {op : ReadOp}, c.reads[i]? = some op → op.handler = .onHandShake →
      (c.sess.adoptPeer (bytePrimitives q k a) op.hello).id ≠ q.emptyString := by
    intro i op hop hh
    have hopening : 0 < c.opening := by
      have hreads := Conn.helloReads_pos hop hh
      unfold Conn.opening
      omega
    exact adoptPeer_named hempty (hident.shaped op (List.mem_of_getElem? hop)) hh
      (hident.server rfl hopening)
  cases hs with
  | connectDone hconn _ =>
    have hidle := ((configured rfl h hc).server rfl).1
    rw [hconn] at hidle
    cases hidle
  | unlisted _ _ _ _ =>
    refine ⟨Or.inr ⟨_, rfl, rfl⟩, fun hid => Or.inr ?_⟩
    exact congrArg (fun id => [ClientCall.onClose id]) hid
  | badSignature hop _ hh _ _ =>
    exact ⟨Or.inr ⟨_, rfl, rfl⟩, fun hid => absurd hid (hnew hop hh)⟩
  | finished hop _ hh _ _ _ =>
    rw [← List.append_cancel_left hcalls]
    exact ⟨Or.inr ⟨_, rfl, rfl⟩, fun hid => absurd hid (hnew hop hh)⟩
  | @bodyDone i op hop _ hh hp =>
    have hid' : (c.sess.handleReadMsg (bytePrimitives q k a) false op.buffer).1.id = c.sess.id := by
      rw [ChatSession.handleReadMsg_eq]
    rw [ChatSession.handleReadMsg_effects _ _ hp]
    refine ⟨Or.inr ⟨_, rfl, hid'.symm⟩, fun hid => ?_⟩
    have hframes : 0 < c.frameReads := by
      rw [Conn.frameReads, List.countP_pos_iff]
      exact ⟨op, List.mem_of_getElem? hop, by simp [ReadOp.isHello, hh]⟩
    have hfin : 0 < c.finishes := Nat.lt_of_lt_of_le hframes (ordered _ h.guarded hc).frames
    exact absurd (hid'.symm.trans hid) (named_of_finished hempty h hc hfin)
  | _ => exact ⟨Or.inl rfl, fun _ => Or.inl rfl⟩

/-- An event of session `s`: a step of its socket or a text to its id. -/
def IsOf (e : Endpoint QString Ctx) (s : ℕ) : Event QString Ctx → Prop
  | .socket s' _ => s' = s
  | .sendTextMsg id _ => ∃ c, e.sessions[s]? = some c ∧ c.sess.id = id
  | _ => False

def signalsFor (e : Endpoint QString Ctx) (id : QString) : List (Signal QString) :=
  (e.signals.map Prod.snd).filter (fun sig => sig.id = id)

/-- The endpoints agree in all but the order of signals for different ids. -/
structure Alike (e e' : Endpoint QString Ctx) : Prop where
  role : e.role = e'.role
  name : e.name = e'.name
  staticPrikey : e.staticPrikey = e'.staticPrikey
  staticPubkey : e.staticPubkey = e'.staticPubkey
  peerList : e.peerList = e'.peerList
  sessions : e.sessions = e'.sessions
  sessMap : ∀ id, e.sessMap.lookup id = e'.sessMap.lookup id
  signals : ∀ id, e.signalsFor id = e'.signalsFor id

variable (P : Primitives (List UInt8) QString Ctx)

/-- What an event of session `s` does: session `u` becomes `c'`, with the callbacks in `effs`. -/
inductive Acts (e : Endpoint QString Ctx) (s : ℕ) : Event QString Ctx → ℕ → Conn QString Ctx →
    List (Effect (List UInt8) QString) → Prop
  | socket {ev : SocketEvent} {c c' : Conn QString Ctx}
      {effs : List (Effect (List UInt8) QString)} : e.sessions[s]? = some c →
      c.react P (e.containsPeerPubkey P) ev = some (c', effs) →
      Acts e s (.socket s ev) s c' effs
  | sendTextMsg {id text : QString} {u : ℕ} {c : Conn QString Ctx} :
      e.sessMap.lookup id = some u → e.sessions[u]? = some c →
      Acts e s (.sendTextMsg id text) u (c.encryptText P text) []
  | sendUnknown {id text : QString} {c : Conn QString Ctx} : e.sessMap.lookup id = none →
      e.sessions[s]? = some c → Acts e s (.sendTextMsg id text) s c []

variable {P} {s t u v : ℕ} {ev ev' : Event QString Ctx} {c' d' : Conn QString Ctx}
  {effs effs' : List (Effect (List UInt8) QString)}

lemma update_nil (e : Endpoint QString Ctx) (u : ℕ) (c : Conn QString Ctx) :
    e.update u c [] = { e with sessions := e.sessions.set u c } := rfl

lemma Acts.step (h : Acts P e s ev u c' effs) : e.step P ev = some (e.update u c' effs) := by
  cases h with
  | @socket sev c _ _ hc hreact =>
    change e.sessions[s]?.bind (fun c => (c.react P (e.containsPeerPubkey P) sev).map
      (fun r => e.update s r.1 r.2)) = _
    rw [hc, Option.bind_some, hreact, Option.map_some]
  | sendTextMsg hl hc =>
    change some (e.sendTextMsgEncrypt P _ _).1 = _
    simp only [sendTextMsgEncrypt, hl, modify_eq_set_of_some hc, update_nil]
  | sendUnknown hl hc =>
    change some (e.sendTextMsgEncrypt P _ _).1 = _
    obtain ⟨hlt, rfl⟩ := List.getElem?_eq_some_iff.mp hc
    simp only [sendTextMsgEncrypt, hl, update_nil, List.set_getElem_self]

lemma exists_acts (hown : e.Owned) (hof : e.IsOf s ev) {e' : Endpoint QString Ctx}
    (h : e.step P ev = some e') : ∃ u c' effs, Acts P e s ev u c' effs := by
  cases ev with
  | socket s' sev =>
    obtain rfl : s' = s := hof
    obtain ⟨c, hc, h⟩ := Option.bind_eq_some_iff.mp h
    obtain ⟨⟨c', effs⟩, hreact, _⟩ := Option.map_eq_some_iff.mp h
    exact ⟨_, _, _, .socket hc hreact⟩
  | sendTextMsg id text =>
    obtain ⟨c, hc, _⟩ := hof
    cases hl : e.sessMap.lookup id with
    | none => exact ⟨_, _, _, .sendUnknown hl hc⟩
    | some u =>
      obtain ⟨d, hd, _⟩ := hown id u hl
      exact ⟨_, _, _, .sendTextMsg hl hd⟩
  | _ => exact absurd hof id

/-- An event that another session's event leaves possible does the same as before. -/
lemma Acts.frame (h : Acts P e s ev u c' effs) (huv : u ≠ v)
    (hl : ∀ id text, ev = .sendTextMsg id text →
      (e.update v d' effs').sessMap.lookup id = e.sessMap.lookup id) :
    Acts P (e.update v d' effs') s ev u c' effs := by
  have hcontains : (e.update v d' effs').containsPeerPubkey P = e.containsPeerPubkey P := by
    rw [update_eq]
    rfl
  have hsessions : (e.update v d' effs').sessions[u]? = e.sessions[u]? := by
    rw [update_eq]
    exact List.getElem?_set_ne (Ne.symm huv)
  cases h with
  | socket hc hreact => exact .socket (hsessions.trans hc) (hcontains ▸ hreact)
  | sendTextMsg hid hc => exact .sendTextMsg ((hl _ _ rfl).trans hid) (hsessions.trans hc)
  | sendUnknown hid hc => exact .sendUnknown ((hl _ _ rfl).trans hid) (hsessions.trans hc)

/-- The id that the session has after its event governs what the event touches. -/
lemma Acts.touches (hempty : ∀ b, q.toBase64 b = q.emptyString → b = [])
    (h : Runs (bytePrimitives q k a) .chatServer name es e)
    (hacts : Acts (bytePrimitives q k a) e s ev u c' effs) (hof : e.IsOf s ev)
    {c : Conn QString Ctx} (hc : (e.update u c' effs).sessions[s]? = some c) :
    (u = s ∨ e.sessMap.lookup c.sess.id = some u) ∧
      Speaks q.emptyString c.sess.id (clientCalls effs) ∧
      ∀ id text, ev = .sendTextMsg id text → c.sess.id = id := by
  have hsilent : ∀ x : QString, Speaks q.emptyString x [] :=
    fun x => ⟨Or.inl rfl, fun _ => Or.inl rfl⟩
  rw [update_eq] at hc
  cases hacts with
  | @socket sev c₀ _ _ hc₀ hreact =>
    obtain rfl := Option.some.inj ((getElem?_set_of_some hc₀).symm.trans hc)
    exact ⟨Or.inl rfl, speaks hempty h hc₀ (Conn.react_step _ hreact), nofun⟩
  | @sendTextMsg id text _ c₁ hl hc₁ =>
    obtain ⟨c₀, hc₀, hid₀⟩ := hof
    have hid : c.sess.id = id := by
      rcases getElem?_set_cases hc with ⟨rfl, rfl⟩ | ⟨_, hold⟩
      · rw [← hid₀, Option.some.inj (hc₀.symm.trans hc₁)]
        rfl
      · rw [← hid₀, Option.some.inj (hc₀.symm.trans hold)]
    refine ⟨Or.inr (hid.symm ▸ hl), hsilent _, ?_⟩
    rintro _ _ ⟨rfl, rfl⟩
    exact hid
  | @sendUnknown id text c₁ hl hc₁ =>
    obtain ⟨c₀, hc₀, hid₀⟩ := hof
    obtain rfl := Option.some.inj ((getElem?_set_of_some hc₁).symm.trans hc)
    refine ⟨Or.inl rfl, hsilent _, ?_⟩
    rintro _ _ ⟨rfl, rfl⟩
    rw [← hid₀, Option.some.inj (hc₀.symm.trans hc₁)]

/-- A registered session keeps the id of its entry. -/
lemma id_of_lookup (h : Runs P .chatServer name es e) {e' : Endpoint QString Ctx}
    (hs : e.step P ev = some e') {id : QString} (hl : e.sessMap.lookup id = some s)
    {c : Conn QString Ctx} (hc : e'.sessions[s]? = some c) : c.sess.id = id := by
  obtain ⟨c₀, hc₀, hid, hfin⟩ := owned h.guarded id s hl
  have hsettled : e.Settled s id c₀.sess.peerStaticPubkey := ⟨c₀, hc₀, hid, rfl, hfin⟩
  have hafter : Runs P .chatServer name (es ++ [ev]) e' := h.snoc hs
  have hrole : e'.role = e.role := (role_eq P hafter.guarded).trans (role_eq P h.guarded).symm
  obtain ⟨c₁, hc₁, hid₁, _⟩ := hsettled.step h.guarded (step_step P hs) hrole
  rw [← hid₁, Option.some.inj (hc.symm.trans hc₁)]

/-- Sessions whose ids do not clash touch different sessions. -/
lemma touched_ne {x y : QString} (hst : s ≠ t) (hown : e.Owned) {empty : QString}
    (hnone : e.sessMap.lookup empty = none) (hxy : Apart empty x y)
    (hx : ∀ id, e.sessMap.lookup id = some s → x = id)
    (hy : ∀ id, e.sessMap.lookup id = some t → y = id)
    (hu : u = s ∨ e.sessMap.lookup x = some u) (hv : v = t ∨ e.sessMap.lookup y = some v) :
    u ≠ v := by
  have hclash : ∀ w, e.sessMap.lookup x = some w → x = y → False := by
    intro w hl heq
    rcases hxy with hne | ⟨rfl, _⟩
    · exact hne heq
    · rw [hnone] at hl
      cases hl
  rintro rfl
  rcases hu with rfl | hu
  · rcases hv with rfl | hv
    · exact hst rfl
    · have heq := hx y hv
      exact hclash u (heq ▸ hv) heq
  · rcases hv with rfl | hv
    · exact hclash u hu (hy x hu).symm
    · obtain ⟨c, hc, hcx, _⟩ := hown x u hu
      obtain ⟨d, hd, hdy, _⟩ := hown y u hv
      have heq : x = y := by rw [← hcx, ← hdy, Option.some.inj (hc.symm.trans hd)]
      exact hclash u hu heq

/-- The order of two updates of different sessions shows in the signals at most. -/
lemma update_comm (huv : u ≠ v) {empty x y : QString}
    (hA : Speaks empty x (clientCalls effs)) (hB : Speaks empty y (clientCalls effs'))
    (hxy : Apart empty x y) :
    ((e.update u c' effs).update v d' effs').Alike ((e.update v d' effs').update u c' effs) := by
  have howners : ∀ (w : ℕ) (calls : List (ClientCall QString)),
      (calls.map (fun call => (w, call.signal))).map Prod.snd = calls.map ClientCall.signal := by
    intro w calls
    rw [List.map_map]
    rfl
  simp only [update_eq]
  refine ⟨rfl, rfl, rfl, rfl, rfl, List.set_comm _ _ huv,
    hA.lookup_comm hB hxy e.role u v e.sessMap, fun id => ?_⟩
  have hcomm := hA.signals_comm hB hxy id
  rw [List.map_append, List.map_append, List.filter_append, List.filter_append] at hcomm
  simp only [signalsFor, List.map_append, List.append_assoc, List.filter_append, howners, hcomm]

/-- Two events of different sessions on a server, after which the ids of the sessions differ or are
both empty, leave each other possible, and both orders lead to the same entries, sessions and
signals for each id. -/
theorem independent_of_ids (hempty : ∀ b, q.toBase64 b = q.emptyString → b = [])
    (h : Runs (bytePrimitives q k a) .chatServer name es e) (hst : s ≠ t) (hof : e.IsOf s ev)
    (hof' : e.IsOf t ev') {e₁ e₂ : Endpoint QString Ctx}
    (h₁ : e.step (bytePrimitives q k a) ev = some e₁)
    (h₂ : e.step (bytePrimitives q k a) ev' = some e₂) {c d : Conn QString Ctx}
    (hc : e₁.sessions[s]? = some c) (hd : e₂.sessions[t]? = some d)
    (hid : c.sess.id ≠ d.sess.id ∨ c.sess.id = q.emptyString ∧ d.sess.id = q.emptyString) :
    ∃ e₁₂ e₂₁, e₁.step (bytePrimitives q k a) ev' = some e₁₂ ∧
      e₂.step (bytePrimitives q k a) ev = some e₂₁ ∧ e₁₂.Alike e₂₁ := by
  have hown : e.Owned := owned h.guarded
  have hnone := lookup_empty hempty h
  have hxy : Apart q.emptyString c.sess.id d.sess.id := hid
  obtain ⟨u, c', effs, hacts⟩ := exists_acts hown hof h₁
  obtain ⟨v, d', effs', hacts'⟩ := exists_acts hown hof' h₂
  have hx : ∀ id, e.sessMap.lookup id = some s → c.sess.id = id :=
    fun id hl => id_of_lookup h h₁ hl hc
  have hy : ∀ id, e.sessMap.lookup id = some t → d.sess.id = id :=
    fun id hl => id_of_lookup h h₂ hl hd
  obtain rfl := Option.some.inj (h₁.symm.trans hacts.step)
  obtain rfl := Option.some.inj (h₂.symm.trans hacts'.step)
  obtain ⟨hu, hA, htext⟩ := hacts.touches hempty h hof hc
  obtain ⟨hv, hB, htext'⟩ := hacts'.touches hempty h hof' hd
  have huv := touched_ne hst hown hnone hxy hx hy hu hv
  have hframe : Acts (bytePrimitives q k a) (e.update v d' effs') s ev u c' effs := by
    refine hacts.frame huv (fun id text hev => ?_)
    rw [← htext id text hev, update_eq]
    exact hB.lookup hxy e.role v hnone
  have hframe' : Acts (bytePrimitives q k a) (e.update u c' effs) t ev' v d' effs' := by
    refine hacts'.frame (Ne.symm huv) (fun id text hev => ?_)
    rw [← htext' id text hev, update_eq]
    exact hA.lookup hxy.symm e.role u hnone
  exact ⟨_, _, hframe'.step, hframe.step, update_comm huv hA hB hxy⟩

/-- A request of the listed peer with key 7 and one of an unlisted peer are handled in any order. -/
theorem independent_of_ids_requests :
    ∃ (es : List (Event (List UInt8) ChachaContext))
      (e e₁ e₂ e₁₂ e₂₁ : Endpoint (List UInt8) ChachaContext),
      Runs base64Primitives .chatServer [] es e ∧
      e.step base64Primitives (.socket 0 (.readDone 0)) = some e₁ ∧
      e₁.step base64Primitives (.socket 1 (.readDone 0)) = some e₁₂ ∧
      e.step base64Primitives (.socket 1 (.readDone 0)) = some e₂ ∧
      e₂.step base64Primitives (.socket 0 (.readDone 0)) = some e₂₁ ∧ e₁₂.Alike e₂₁ := by
  let test (e : Endpoint (List UInt8) ChachaContext) : Bool :=
    (e.step base64Primitives (.socket 0 (.readDone 0))).any fun e₁ =>
      (e.step base64Primitives (.socket 1 (.readDone 0))).any fun e₂ =>
        (e₁.sessions[0]?).any fun c => (e₂.sessions[1]?).any fun d =>
          decide (c.sess.id = samplePadded) && decide (d.sess.id = [])
  obtain ⟨e, hrun, hp⟩ := exists_run_of_exec (Endpoint.step base64Primitives)
    [.updatePeerList [⟨[], samplePadded, [], 0⟩],
      .accept (sampleKey 3) sampleContext sampleContext,
      .accept (sampleKey 4) sampleContext sampleContext,
      .socket 0 (.readSome 0 (sampleHello 1 7 5).pack),
      .socket 1 (.readSome 0 (sampleHello 1 9 6).pack)]
    test (s := Endpoint.init .chatServer []) (by decide +kernel)
  obtain ⟨e₁, h₁, hp⟩ := (Option.any_eq_true _ _).mp hp
  obtain ⟨e₂, h₂, hp⟩ := (Option.any_eq_true _ _).mp hp
  obtain ⟨c, hc, hp⟩ := (Option.any_eq_true _ _).mp hp
  obtain ⟨d, hd, hp⟩ := (Option.any_eq_true _ _).mp hp
  simp only [Bool.and_eq_true, decide_eq_true_eq] at hp
  have hid : c.sess.id ≠ d.sess.id := by
    rw [hp.1, hp.2]
    intro hnil
    cases Base64.eq_nil_of_encode Base64.standard hnil
  have hof : e.IsOf 0 (.socket 0 (.readDone 0)) := rfl
  have hof' : e.IsOf 1 (.socket 1 (.readDone 0)) := rfl
  obtain ⟨e₁₂, e₂₁, h₁₂, h₂₁, halike⟩ := independent_of_ids (q := base64Qt) (k := sampleCurve)
    (a := mbedtlsChacha20) (fun _ hnil => Base64.eq_nil_of_encode _ hnil) hrun Nat.zero_ne_one
    hof hof' h₁ h₂ hc hd (Or.inl hid)
  exact ⟨_, e, e₁, e₂, e₁₂, e₂₁, hrun, h₁, h₁₂, h₂, h₂₁, halike⟩

end Endpoint

end Server

end Enchat
