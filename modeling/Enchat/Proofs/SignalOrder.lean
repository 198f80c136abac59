import Enchat.Proofs.Routing

/-!
# The order of the signals of a client session

The handler of `async_connect` is told of a close, since asio looks at the socket once more before
it calls it. The handlers of reads notice a close only by the error code of their operation. As long
as none of them makes a callback on a session that has been closed, the signals of each session come
in order, and a close cuts them off.
-/

namespace Enchat
open Buffer Transition ListUpdate

variable {QString Ctx : Type}

/-- First the connection, then the end of the handshake, then texts, cut off somewhere, perhaps by
a close. -/
def InSequence (l : List (Signal QString)) : Prop :=
  ∃ (id : QString) (texts : List QString) (pre close : List (Signal QString)), l = pre ++ close ∧
    pre <+: .sigConnected id :: .sigHandshakeFinished id :: texts.map (.sigTextMsg id) ∧
    (close = [] ∨ close = [.sigClose id])

lemma InSequence.mono {l l' : List (Signal QString)} (h : InSequence l) (hpre : l' <+: l) :
    InSequence l' := by
  obtain ⟨id, texts, pre, close, rfl, hfull, rfl | rfl⟩ := h
  · rw [List.append_nil] at hpre
    exact ⟨id, texts, l', [], (List.append_nil _).symm, hpre.trans hfull, Or.inl rfl⟩
  · rcases List.prefix_concat_iff.mp hpre with rfl | hpre
    · exact ⟨id, texts, pre, _, rfl, hfull, Or.inr rfl⟩
    · exact ⟨id, texts, l', [], (List.append_nil _).symm, hpre.trans hfull, Or.inl rfl⟩

/-- Nothing comes after a close. -/
lemma InSequence.no_close {l : List (Signal QString)} {sig : Signal QString}
    (h : InSequence (l ++ [sig])) (id : QString) : .sigClose id ∉ l := by
  intro hmem
  obtain ⟨id', texts, pre, close, heq, hfull, hclose⟩ := h
  have hno : .sigClose id ∉ pre := by
    intro hin
    have := hfull.subset hin
    simp at this
  rcases hclose with rfl | rfl
  · rw [List.append_nil] at heq
    exact hno (heq ▸ List.mem_append_left _ hmem)
  · obtain ⟨rfl, _⟩ := List.append_inj' heq rfl
    exact hno hmem

variable (P : Primitives (List UInt8) QString Ctx)

namespace Conn

/-- The step runs the handler of a read that has succeeded, and the handler makes a callback. -/
def Emits (contains : List UInt8 → Bool) (c : Conn QString Ctx) : SocketEvent → Prop
  | .readDone i => ∃ op ∈ c.reads[i]?, c.Refuses P contains op ∨ c.Accepts P contains op ∨
      (op.handler = .handleReadMsg ∧ getU16 op.buffer 2 = 1)
  | _ => False

instance (contains : List UInt8 → Bool) (c : Conn QString Ctx) :
    (ev : SocketEvent) → Decidable (c.Emits P contains ev)
  | .readDone i => inferInstanceAs (Decidable (∃ op ∈ c.reads[i]?, c.Refuses P contains op ∨
      c.Accepts P contains op ∨ (op.handler = .handleReadMsg ∧ getU16 op.buffer 2 = 1)))
  | .connectOk => isFalse id
  | .connectDone => isFalse id
  | .connectFail => isFalse id
  | .writeSome _ _ => isFalse id
  | .writeDone _ => isFalse id
  | .writeFail _ => isFalse id
  | .readSome _ _ => isFalse id
  | .readFail _ => isFalse id
  | .startWrite _ => isFalse id

variable {P}

lemma not_emits_readDone {contains : List UInt8 → Bool} {c : Conn QString Ctx} {i : ℕ} {op : ReadOp}
    (hop : c.reads[i]? = some op) (hrefuse : ¬c.Refuses P contains op)
    (haccept : ¬c.Accepts P contains op)
    (htext : op.handler = .handleReadMsg → getU16 op.buffer 2 ≠ 1) :
    ¬c.Emits P contains (.readDone i) := by
  rintro ⟨op', hop', hemits⟩
  obtain rfl := Option.some.inj (hop.symm.trans hop')
  rcases hemits with h | h | ⟨hh, hp⟩
  · exact hrefuse h
  · exact haccept h
  · exact htext hh hp

/-- A step makes no callback, or one in the handler of a read or, on an open socket, in that of
`async_connect`. -/
lemma Step.calls_cases {contains : List UInt8 → Bool} {c c' : Conn QString Ctx} {ev : SocketEvent}
    {effs : List (Effect (List UInt8) QString)} (hs : Step P contains c ev c' effs) :
    (¬c.Emits P contains ev ∧ c'.calls = c.calls ∧ c'.isOpen = c.isOpen) ∨
      ((c.Emits P contains ev ∨ c.isOpen = true) ∧ ∃ call, c'.calls = c.calls ++ [call]) := by
  cases hs with
  | connectDone _ hopen => exact Or.inr ⟨Or.inr hopen, _, rfl⟩
  | unlisted hop hf hh ha =>
    exact Or.inr ⟨Or.inl ⟨_, hop, Or.inl ⟨hh, hf, fun h => ha h.1⟩⟩, _, rfl⟩
  | badSignature hop hf hh _ hv =>
    exact Or.inr ⟨Or.inl ⟨_, hop, Or.inl ⟨hh, hf, fun h => hv h.2⟩⟩, _, rfl⟩
  | finished hop hf hh ha hv hx =>
    exact Or.inr ⟨Or.inl ⟨_, hop, Or.inr (Or.inl ⟨hh, hf, ha, hv, hx⟩)⟩, _, rfl⟩
  | bodyDone hop _ hh hp => exact Or.inr ⟨Or.inl ⟨_, hop, Or.inr (Or.inr ⟨hh, hp⟩)⟩, _, rfl⟩
  | noSharedKey hop _ hh ha hv hx =>
    refine Or.inl ⟨not_emits_readDone hop (fun h => h.2.2 ⟨ha, hv⟩) (fun h => ?_) ?_, rfl, rfl⟩
    · exact Bool.false_ne_true (hx.symm.trans h.2.2.2.2)
    · simp [hh]
  | headDone hop _ hh =>
    refine Or.inl ⟨not_emits_readDone hop (fun h => ?_) (fun h => ?_) ?_, rfl, rfl⟩
    · exact absurd (hh.symm.trans h.1) nofun
    · exact absurd (hh.symm.trans h.1) nofun
    · simp [hh]
  | bodySkipped hop _ hh hp =>
    refine Or.inl ⟨not_emits_readDone hop (fun h => ?_) (fun h => ?_) (fun _ => hp), rfl, rfl⟩
    · exact absurd (hh.symm.trans h.1) nofun
    · exact absurd (hh.symm.trans h.1) nofun
  | _ => exact Or.inl ⟨id, rfl, rfl⟩

/-- The request that is being written and the packet that is being read. -/
def helloOps (c : Conn QString Ctx) : ℕ := c.writes.countP WriteOp.isRequest + c.helloReads

lemma Step.helloOps_le {contains : List UInt8 → Bool} {c c' : Conn QString Ctx} {ev : SocketEvent}
    {effs : List (Effect (List UInt8) QString)} (hs : Step P contains c ev c' effs)
    (hidle : ev = .connectDone → c.isOpen = false) :
    c'.helloOps ≤ c.helloOps ∧ (c.connecting = .idle → c'.connecting = .idle) := by
  have hle := hs.opening_le
  have hsame : c'.connecting = c.connecting → c'.helloOps ≤ c.helloOps := by
    intro heq
    simp only [opening, heq] at hle
    simp only [helloOps]
    omega
  cases hs with
  | connectOk hc _ => exact ⟨Nat.le_refl _, fun h => by simp [h] at hc⟩
  | connectFail hc => exact ⟨Nat.le_refl _, fun _ => rfl⟩
  | connectDone _ hopen => exact absurd (hidle rfl) (ne_false_of_eq_true hopen)
  | connectAborted _ _ => exact ⟨Nat.le_refl _, fun _ => rfl⟩
  | _ => exact ⟨hsame rfl, id⟩

/-- What a session has reported apart from a close. -/
inductive Reported (c : Conn QString Ctx) : List (ClientCall QString) → Prop
  | created : c.helloOps = 0 → Reported c []
  | connected : c.connecting = .idle → Reported c [.onConnected c.sess.id]
  | finished (texts : List QString) : c.connecting = .idle → Reported c
      (.onConnected c.sess.id :: .onHandShakeFinished c.sess.id ::
        texts.map (.onTextMsg c.sess.id))

/-- The session has reported things in order, and the close last. -/
def Sequenced (c : Conn QString Ctx) : Prop :=
  ∃ pre, c.Reported pre ∧ c.calls = pre ++ if c.isOpen then [] else [.onClose c.sess.id]

lemma Reported.frame {c c' : Conn QString Ctx} {pre : List (ClientCall QString)}
    (h : c.Reported pre) (hid : c'.sess.id = c.sess.id) (hops : c'.helloOps ≤ c.helloOps)
    (hidle : c.connecting = .idle → c'.connecting = .idle) : c'.Reported pre := by
  cases h with
  | created hzero => exact .created (by omega)
  | connected hc => exact hid ▸ .connected (hidle hc)
  | finished texts hc => exact hid ▸ .finished texts (hidle hc)

lemma Sequenced.closed {c : Conn QString Ctx} (h : c.Sequenced) (hopen : c.isOpen = true) :
    c.closed.Sequenced := by
  obtain ⟨pre, hpre, hcalls⟩ := h
  refine ⟨pre, hpre.frame rfl (Nat.le_refl _) id, ?_⟩
  rw [hopen, if_pos rfl, List.append_nil] at hcalls
  simp [closed_eq, hcalls]

theorem Sequenced.step {contains : List UInt8 → Bool} {c c' : Conn QString Ctx} {ev : SocketEvent}
    {effs : List (Effect (List UInt8) QString)} (hord : c.Ordered) (h : c.Sequenced)
    (hs : Step P contains c ev c' effs) (hid : c'.sess.id = c.sess.id)
    (hguard : c.Emits P contains ev → c.isOpen = true) : c'.Sequenced := by
  obtain ⟨pre, hpre, hcalls⟩ := h
  rcases hs.calls_cases with ⟨_, hsame, hopen⟩ | ⟨hemits, hcall⟩
  · have hquiet : ev = .connectDone → c.isOpen = false := by
      rintro rfl
      cases hs with
      | connectDone _ _ => simp at hsame
      | connectAborted _ hclosed => exact hclosed
    obtain ⟨hops, hidle⟩ := hs.helloOps_le hquiet
    exact ⟨pre, hpre.frame hid hops hidle, by rw [hsame, hopen, hid, hcalls]⟩
  · obtain ⟨call, hcall⟩ := hcall
    have hopen : c.isOpen = true := hemits.elim hguard id
    rw [hopen, if_pos rfl, List.append_nil] at hcalls
    have hframe : ev ≠ .connectDone → c'.Reported pre := fun hquiet =>
      have hops := hs.helloOps_le (fun heq => absurd heq hquiet)
      hpre.frame hid hops.1 hops.2
    have hfin : ∀ texts : List QString,
        c.calls = .onConnected c.sess.id :: .onHandShakeFinished c.sess.id ::
          texts.map (.onTextMsg c.sess.id) → 0 < c.finishes := by
      intro texts heq
      exact c.finishes_pos_iff.mpr ⟨c.sess.id, by simp [heq]⟩
    cases hs with
    | connectDone hc _ =>
      cases hpre with
      | created _ => exact ⟨_, .connected rfl, by simp [hcalls, hopen]⟩
      | connected hidle => simp [hidle] at hc
      | finished texts hidle => simp [hidle] at hc
    | unlisted _ _ _ _ => exact ⟨pre, hframe nofun, by simp [hcalls]⟩
    | badSignature _ _ _ _ _ => exact ⟨pre, hframe nofun, by simp [hcalls]⟩
    | finished hop _ hh _ _ _ =>
      have hreads := helloReads_pos hop hh
      have hzero := hord.waiting_unfinished hreads
      cases hpre with
      | created hops =>
        simp only [helloOps] at hops
        omega
      | connected hidle =>
        refine ⟨_, .finished [] hidle, ?_⟩
        simp only [hcalls, hopen, if_true, List.append_nil, List.map_nil]
        rw [hid]
        exact congrArg (fun id => [ClientCall.onConnected c.sess.id, .onHandShakeFinished id]) hid
      | finished texts _ =>
        have := hfin texts hcalls
        omega
    | @bodyDone i op hop _ hh _ =>
      have hframes := hord.frames
      have hcount := (countP_frame_done hop (by simp [hh])).2
      have hnone : ∀ l : List (ClientCall QString), c.calls = l →
          l.countP ClientCall.isFinished = c.finishes := fun l heq => by rw [← heq, finishes]
      cases hpre with
      | created _ =>
        have := hnone _ hcalls
        simp at this
        omega
      | connected _ =>
        have := hnone _ hcalls
        simp [ClientCall.isFinished] at this
        omega
      | finished texts hidle =>
        refine ⟨_, .finished (texts ++ [P.fromUtf8
          (cString ((c.sess.handleReadMsg P false op.buffer).2.1.drop 4))]) hidle, ?_⟩
        have hid' : (c.sess.handleReadMsg P false op.buffer).1.id = c.sess.id := hid
        simp [hcalls, hopen, hid']
    | _ => simp at hcall

/-- The signals of such a session are in sequence. -/
lemma Sequenced.inSequence {c : Conn QString Ctx} (h : c.Sequenced) :
    InSequence (c.calls.map ClientCall.signal) := by
  obtain ⟨pre, hpre, hcalls⟩ := h
  have hclose : (if c.isOpen then [] else [ClientCall.onClose c.sess.id]).map ClientCall.signal =
      [] ∨ (if c.isOpen then [] else [ClientCall.onClose c.sess.id]).map ClientCall.signal =
      [.sigClose c.sess.id] := by
    split
    · exact Or.inl rfl
    · exact Or.inr rfl
  rw [hcalls, List.map_append]
  cases hpre with
  | created _ => exact ⟨c.sess.id, [], [], _, rfl, List.nil_prefix, hclose⟩
  | connected _ =>
    exact ⟨c.sess.id, [], [.sigConnected c.sess.id], _, rfl, ⟨_, rfl⟩, hclose⟩
  | finished texts _ =>
    have htexts : (texts.map (ClientCall.onTextMsg c.sess.id)).map ClientCall.signal =
        texts.map (.sigTextMsg c.sess.id) := by
      rw [List.map_map]
      rfl
    refine ⟨c.sess.id, texts, _, _, rfl, ?_, hclose⟩
    rw [List.map_cons, List.map_cons, htexts]
    exact List.prefix_refl _

end Conn

namespace Endpoint

variable [DecidableEq QString]

/-- The handler of a read makes a callback only while the socket of the session is open. -/
def EmitsWhileOpen (e : Endpoint QString Ctx) : Event QString Ctx → Prop
  | .socket s ev =>
    ∀ c ∈ e.sessions[s]?, c.Emits P (e.containsPeerPubkey P) ev → c.isOpen = true
  | _ => True

instance (e : Endpoint QString Ctx) : (ev : Event QString Ctx) → Decidable (e.EmitsWhileOpen P ev)
  | .socket s ev => inferInstanceAs
      (Decidable (∀ c ∈ e.sessions[s]?, c.Emits P (e.containsPeerPubkey P) ev → c.isOpen = true))
  | .accept _ _ _ => isTrue trivial
  | .doConnect _ _ _ _ => isTrue trivial
  | .sendTextMsg _ _ => isTrue trivial
  | .close => isTrue trivial
  | .updatePeerList _ => isTrue trivial
  | .setEcKey _ _ => isTrue trivial
  | .setName _ => isTrue trivial

variable {P} {C : Endpoint QString Ctx → Event QString Ctx → Prop} {name : QString}
  {es : List (Event QString Ctx)} {e : Endpoint QString Ctx}

/-- Without late callbacks every client session reports things in order. -/
lemma sequenced (h : GuardedRuns P (EmitsWhileOpen P) .chatClient name es e) {s : ℕ}
    {c : Conn QString Ctx} (hc : e.sessions[s]? = some c) : c.Sequenced := by
  revert s c
  refine h.invariant_history
    (I := fun _ e => ∀ {s : ℕ} {c : Conn QString Ctx}, e.sessions[s]? = some c → c.Sequenced) ?_ ?_
  · intro s c hc
    simp [init] at hc
  · intro es e ev e' hr ih hs s c hc
    obtain ⟨hstep, hguard⟩ := hs
    have hrole := role_eq P hr
    cases (step_step P hstep).session P hc with
    | same hold _ => exact ih hold
    | accept _ hserver _ _ => simp [hrole] at hserver
    | connect _ _ _ hnew _ =>
      subst hnew
      exact ⟨[], .created rfl, rfl⟩
    | @move c₀ sev effs hev hc₀ hconn _ =>
      subst hev
      have hid := (identity_of_step hr hc₀ hconn (fun hserver => by simp [hrole] at hserver)).1
      exact (ih hc₀).step (ordered P hr hc₀) hconn hid (hguard c₀ hc₀)
    | encrypt _ hc₀ _ henc =>
      subst henc
      obtain ⟨pre, hpre, hcalls⟩ := ih hc₀
      exact ⟨pre, hpre.frame rfl (Nat.le_refl _) id, hcalls⟩
    | close _ _ hclose =>
      rcases closeAll_session (owned hr) hclose with ⟨c₀, id, hc₀, hl, rfl⟩ | hold
      · obtain ⟨hclosing, hunlisted⟩ := closing hr s c₀ hc₀
        refine (ih hc₀).closed (hclosing.isOpen.mpr ?_)
        by_contra hne
        exact hunlisted (Nat.pos_of_ne_zero hne) id hl
      · exact ih hold

/-- Signals are never taken back. -/
lemma Step.signals_mono {e e' : Endpoint QString Ctx} {ev : Event QString Ctx}
    (h : Step P e ev e') : e.signals <+: e'.signals := by
  cases h with
  | socket _ _ =>
    rw [update_eq]
    exact List.prefix_append _ _
  | close _ =>
    refine closeAll_induct (M := fun e' => e.signals <+: e'.signals) ?_ (fun _ h => h)
      (List.prefix_refl _)
    intro e' s hpre
    exact closeSession_cases (M := fun e' => e.signals <+: e'.signals) hpre
      (fun _ _ => hpre.trans (List.prefix_append _ _))
  | _ => exact List.prefix_refl _

lemma Step.signalsOf_mono {e e' : Endpoint QString Ctx} {ev : Event QString Ctx}
    (h : Step P e ev e') (s : ℕ) : e.signalsOf s <+: e'.signalsOf s :=
  (h.signals_mono.filter _).map _

/-- A callback of a closed session comes after its `sigClose`. -/
lemma open_of_inSequence {role : Role} {ev : SocketEvent} {e' : Endpoint QString Ctx} {s : ℕ}
    (hr : GuardedRuns P C role name es e) (hs : e.step P (.socket s ev) = some e')
    (hrun' : GuardedRuns P C role name (es ++ [.socket s ev]) e')
    (horder : InSequence (e'.signalsOf s)) : e.EmitsWhileOpen P (.socket s ev) := by
  intro c hc hemits
  by_contra hclosed
  cases step_step P hs with
  | @socket _ _ c₀ c' effs hc₀ hconn =>
    obtain rfl := Option.some.inj (hc.symm.trans hc₀)
    have hc' : (e.update s c' effs).sessions[s]? = some c' := by
      rw [update_eq]
      exact getElem?_set_of_some hc
    rcases hconn.calls_cases with ⟨hquiet, _⟩ | ⟨_, call, hcall⟩
    · exact hquiet hemits
    have hpos : 0 < c.closes := by
      rw [(closing hr s c hc).1.isOpen] at hclosed
      omega
    obtain ⟨id, hmem⟩ := c.closes_pos_iff.mp hpos
    rw [signalsOf_eq P hrun', recorded_eq hc', hcall, List.map_append] at horder
    exact horder.no_close id (List.mem_map.mpr ⟨_, hmem, rfl⟩)

end Endpoint

end Enchat
