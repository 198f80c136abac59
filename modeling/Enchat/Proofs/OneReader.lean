import Enchat.Proofs.Keystream
import Enchat.Proofs.Receiver
import Enchat.Proofs.Routing

/-!
# One reader and one key set-up

At every moment a session is either before its packet, reading it, done without success, or in the
read loop, and in each of these places it has at most one read. What it has received is the packet
followed by frames, and every byte goes to the read that is outstanding.
-/

namespace Enchat
open Buffer Transition ListUpdate

variable {QString Ctx : Type} {P : Primitives (List UInt8) QString Ctx} {C : StreamCipher Ctx}

/-- What `initChaCha20` makes of a context. -/
def startedContext (P : Primitives (List UInt8) QString Ctx) (ctx : Ctx) (key : List UInt8) : Ctx :=
  P.mbedtlsChacha20Starts (P.mbedtlsChacha20Setkey (P.mbedtlsChacha20Init ctx) key) key 0

namespace Conn

/-- Where a session stands with its reads: `hello` has arrived for its packet, `frames` are the
frames that it has handled, and `part` has arrived of the next one. -/
inductive Reader (P : Primitives (List UInt8) QString Ctx) (C : StreamCipher Ctx)
    (c : Conn QString Ctx) : List UInt8 → List (List UInt8) → List UInt8 → Prop
  | idle {hello : List UInt8} : c.reads = [] → c.finishes = 0 → c.handled = [] →
      (0 < c.opening → hello = []) → hello.length ≤ 165 → Reader P C c hello [] []
  | packet {hello : List UInt8} : c.reads = [{ helloRead with got := hello }] → c.handled = [] →
      hello.length ≤ 165 → Reader P C c hello [] []
  | loop {hello part : List UInt8} {frames : List (List UInt8)} {ctx : Ctx} : hello.length = 165 →
      0 < c.finishes →
      c.Receiving P C (startedContext P ctx c.sess.chacha20Key) (frames.flatten ++ part) frames part →
      (c.reads = [] → ∀ f, msgFraming.IsFrame f → ¬f <+: part) → Reader P C c hello frames part

lemma Reader.frame {c c' : Conn QString Ctx} {hello part : List UInt8} {frames : List (List UInt8)}
    (h : c.Reader P C hello frames part) (hreads : c'.reads = c.reads)
    (hfin : c'.finishes = c.finishes) (hhandled : c'.handled = c.handled)
    (hopening : c'.opening ≤ c.opening) (hdctx : c'.sess.chachaDctx = c.sess.chachaDctx)
    (hkey : c'.sess.chacha20Key = c.sess.chacha20Key) (htexts : c'.texts = c.texts)
    (herrors : .asyncRead ∈ c.errors → .asyncRead ∈ c'.errors) : c'.Reader P C hello frames part := by
  cases h with
  | idle hnone hzero hnil hempty hle =>
    exact .idle (hreads.trans hnone) (hfin.trans hzero) (hhandled.trans hnil)
      (fun hpos => hempty (by omega)) hle
  | packet hone hnil hle => exact .packet (hreads.trans hone) (hhandled.trans hnil) hle
  | loop hlen hpos hr hopen =>
    refine .loop hlen (by omega) (hkey ▸ hr.frame hdctx hhandled htexts hreads herrors) ?_
    rw [hreads]
    exact hopen

/-- A session that is reading its packet does nothing else of its handshake. -/
lemma Ordered.of_packet {c : Conn QString Ctx} (h : c.Ordered) {hello : List UInt8}
    (hone : c.reads = [{ helloRead with got := hello }]) :
    c.connecting = .idle ∧ (∀ op ∈ c.writes, op.hello ≠ some 1) ∧ c.finishes = 0 ∧ c.opening = 1 := by
  have hhello : c.helloReads = 1 := by
    rw [helloReads, hone]
    rfl
  have hle := h.opening
  simp only [Conn.opening, hhello] at hle ⊢
  have hidle : c.connecting = .idle := by
    by_contra hne
    rw [if_neg hne] at hle
    omega
  rw [if_pos hidle] at hle ⊢
  have hwrites : c.writes.countP WriteOp.isRequest = 0 := by omega
  refine ⟨hidle, ?_, by omega, by omega⟩
  simpa [List.countP_eq_zero, WriteOp.isRequest] using hwrites

lemma Reader.step_idle {contains : List UInt8 → Bool} {c c' : Conn QString Ctx} {ev : SocketEvent}
    {effs : List (Effect (List UInt8) QString)} {hello : List UInt8} (hreads : c.reads = [])
    (hzero : c.finishes = 0) (hnil : c.handled = []) (hempty : 0 < c.opening → hello = [])
    (hle : hello.length ≤ 165) (hs : Step P contains c ev c' effs) :
    Link.arrived ev = [] ∧ c'.Reader P C hello [] [] := by
  have hno : ∀ {i : ℕ} {op : ReadOp}, c.reads[i]? ≠ some op := by simp [hreads]
  have hopening := hs.opening_le
  have hfin : c'.finishes = 0 := by
    rcases hs.finishes_cases with ⟨hfin, _⟩ | ⟨i, op, _, hop, _⟩
    · omega
    · exact absurd hop hno
  have hstay : c'.reads = c.reads → c'.handled = c.handled → c'.Reader P C hello [] [] :=
    fun hr hh => .idle (hr.trans hreads) hfin (hh.trans hnil) (fun hpos => hempty (by omega)) hle
  cases hs with
  | requestDone hop =>
    have hpos : 0 < c.opening := by
      have hcount : 0 < c.writes.countP WriteOp.isRequest :=
        List.countP_pos_iff.mpr ⟨_, List.mem_of_getElem? hop, rfl⟩
      simp only [Conn.opening]
      omega
    obtain rfl := hempty hpos
    refine ⟨rfl, .packet ?_ hnil hle⟩
    rw [hreads]
    rfl
  | readSome hop _ _ _ => exact absurd hop hno
  | readFail hop _ => exact absurd hop hno
  | unlisted hop _ _ _ => exact absurd hop hno
  | badSignature hop _ _ _ _ => exact absurd hop hno
  | noSharedKey hop _ _ _ _ _ => exact absurd hop hno
  | finished hop _ _ _ _ _ => exact absurd hop hno
  | headDone hop _ _ => exact absurd hop hno
  | bodyDone hop _ _ _ => exact absurd hop hno
  | bodySkipped hop _ _ _ => exact absurd hop hno
  | _ => exact ⟨rfl, hstay rfl rfl⟩

lemma Ordered.texts_nil {c : Conn QString Ctx} (h : c.Ordered) (hzero : c.finishes = 0) :
    c.texts = [] := by
  rw [Conn.texts, List.filterMap_eq_nil_iff]
  intro call hmem
  cases call with
  | onTextMsg id text => exact absurd (Or.inr ⟨text, hmem⟩) (h.no_calls hzero id)
  | _ => rfl

/-- A session that has accepted its packet reads the length of the first frame. -/
lemma Reader.of_finished {c : Conn QString Ctx} {hello : List UInt8} (hord : c.Ordered)
    (hone : c.reads = [{ helloRead with got := hello }]) (hnil : c.handled = [])
    (hzero : c.finishes = 0) (hlen : hello.length = 165) (hp : HelloPacket (List UInt8)) :
    Reader P C
      { c with
        sess := (c.sess.agree P hp).initChaCha20 P
        reads := c.reads.eraseIdx 0 ++ [headRead]
        writes := c.writes ++ (c.sess.reply P hp).map (fun hp => ⟨some hp.type, hp.pack⟩)
        hellos := c.hellos ++ c.sess.reply P hp
        calls := c.calls ++ [.onHandShakeFinished (c.sess.adoptPeer P hp).id] } hello [] [] := by
  have hkey : ((c.sess.agree P hp).initChaCha20 P).chachaDctx = startedContext P
      (c.sess.agree P hp).chachaDctx (c.sess.agree P hp).chacha20Key := rfl
  have htexts : (c.calls ++ [ClientCall.onHandShakeFinished (c.sess.adoptPeer P hp).id]).filterMap
      ClientCall.text = [] := by
    rw [List.filterMap_append, show c.calls.filterMap ClientCall.text = [] from
      hord.texts_nil hzero]
    rfl
  refine .loop hlen ?_ ⟨rfl, by simp, hkey, hnil, ?_, Or.inl (Or.inl ⟨by simp, ?_⟩)⟩ (by simp)
  · simp [finishes, ClientCall.isFinished]
  · rw [hnil]
    exact htexts
  · rw [hone]
    rfl

lemma Reader.step_packet {contains : List UInt8 → Bool} {c c' : Conn QString Ctx} {ev : SocketEvent}
    {effs : List (Effect (List UInt8) QString)} {hello : List UInt8} (hord : c.Ordered)
    (hone : c.reads = [{ helloRead with got := hello }]) (hnil : c.handled = [])
    (hle : hello.length ≤ 165) (hs : Step P contains c ev c' effs) :
    c'.Reader P C (hello ++ Link.arrived ev) [] [] := by
  obtain ⟨hidle, hwrites, hzero, hopening⟩ := hord.of_packet hone
  have hop_eq : ∀ {i : ℕ} {op : ReadOp}, c.reads[i]? = some op →
      i = 0 ∧ op = { helloRead with got := hello } :=
    fun hop => eq_of_getElem?_singleton hone hop
  have hstay : c'.reads = c.reads → c'.handled = c.handled → c'.Reader P C (hello ++ []) [] [] := by
    intro hr hh
    rw [List.append_nil]
    exact .packet (hr.trans hone) (hh.trans hnil) hle
  have hdone : ∀ {i : ℕ} {op : ReadOp}, c.reads[i]? = some op → c'.reads = c.reads.eraseIdx i →
      c'.finishes = 0 → c'.handled = c.handled → c'.opening + 1 = c.opening →
      c'.Reader P C (hello ++ []) [] [] := by
    intro i op hop hr hfin hh ho
    obtain ⟨rfl, _⟩ := hop_eq hop
    rw [List.append_nil]
    exact .idle (by simp [hr, hone]) hfin (hh.trans hnil) (fun hpos => absurd hpos (by omega)) hle
  have hrefused : ∀ {id : QString}, (c.calls ++ [ClientCall.onClose id]).countP ClientCall.isFinished = 0 := by
    intro id
    rw [List.countP_append, show c.calls.countP ClientCall.isFinished = 0 from hzero]
    rfl
  cases hs with
  | connectOk hc _ => simp [hidle] at hc
  | connectDone hc _ => simp [hidle] at hc
  | connectAborted hc _ => simp [hidle] at hc
  | connectFail hc => simp [hidle] at hc
  | requestDone hop => exact absurd rfl (hwrites _ (List.mem_of_getElem? hop))
  | writeSome _ _ _ _ => exact hstay rfl rfl
  | writeDone _ _ _ => exact hstay rfl rfl
  | writeFail _ _ => exact hstay rfl rfl
  | startWrite _ => exact hstay rfl rfl
  | @readSome i bytes op hop _ _ hlen =>
    obtain ⟨rfl, rfl⟩ := hop_eq hop
    refine .packet (by simp [hone, Link.arrived]) hnil ?_
    rw [List.length_append]
    exact hlen
  | readFail hop _ =>
    refine hdone hop rfl hzero rfl ?_
    have hcount := countP_eraseIdx_add ReadOp.isHello hop
    obtain ⟨_, rfl⟩ := hop_eq hop
    have hello : ReadOp.isHello { helloRead with got := hello } = true := rfl
    rw [hello, if_pos rfl] at hcount
    simp only [Conn.opening, helloReads]
    omega
  | unlisted hop hf hh ha =>
    exact hdone hop rfl hrefused rfl ((Step.unlisted hop hf hh ha).opening_hello P hop hh)
  | badSignature hop hf hh ha hv =>
    exact hdone hop rfl hrefused rfl ((Step.badSignature hop hf hh ha hv).opening_hello P hop hh)
  | noSharedKey hop hf hh ha hv hx =>
    exact hdone hop rfl hzero rfl ((Step.noSharedKey hop hf hh ha hv hx).opening_hello P hop hh)
  | @finished i op hop hf hh ha hv hx =>
    obtain ⟨rfl, hop'⟩ := hop_eq hop
    have hlen : hello.length = 165 := by
      rw [hop'] at hf
      exact hf
    have harrived : Link.arrived (.readDone 0) = [] := rfl
    rw [harrived, List.append_nil]
    exact Reader.of_finished hord hone hnil hzero hlen op.hello
  | headDone hop _ hh =>
    obtain ⟨_, rfl⟩ := hop_eq hop
    cases hh
  | bodyDone hop _ hh _ =>
    obtain ⟨_, rfl⟩ := hop_eq hop
    cases hh
  | bodySkipped hop _ hh _ =>
    obtain ⟨_, rfl⟩ := hop_eq hop
    cases hh

theorem Reader.step (hC : P.mbedtlsChacha20Update = C.update) {contains : List UInt8 → Bool}
    {c c' : Conn QString Ctx} {ev : SocketEvent} {effs : List (Effect (List UInt8) QString)}
    {hello part : List UInt8} {frames : List (List UInt8)} (hord : c.Ordered)
    (h : c.Reader P C hello frames part) (hs : Step P contains c ev c' effs) :
    ∃ hello' frames' part', c'.Reader P C hello' frames' part' ∧
      hello' ++ frames'.flatten ++ part' = hello ++ frames.flatten ++ part ++ Link.arrived ev := by
  cases h with
  | idle hreads hzero hnil hempty hle =>
    obtain ⟨harrived, hr⟩ := Reader.step_idle hreads hzero hnil hempty hle hs
    exact ⟨hello, [], [], hr, by simp [harrived]⟩
  | packet hone hnil hle =>
    exact ⟨_, [], [], Reader.step_packet hord hone hnil hle hs, by simp⟩
  | loop hlen hpos hr hopen =>
    have hle := hord.opening
    obtain ⟨frames', part', hr', hopen'⟩ := hr.step hC (by omega) hs
    have hkey : c'.sess.chacha20Key = c.sess.chacha20Key := by
      rw [hs.sess_of_finished P hord hpos]
    have hcut := hr'.cut
    refine ⟨hello, frames', part', .loop hlen ?_ (hkey ▸ hcut ▸ hr') ?_, ?_⟩
    · have := hs.finishes_le
      omega
    · intro hnone
      rcases hopen' hnone with ⟨hnone', rfl⟩ | hopen'
      · exact hopen hnone'
      · exact hopen'
    · rw [List.append_assoc, ← hcut]
      simp only [List.append_assoc]

lemma Reader.closed {c : Conn QString Ctx} {hello part : List UInt8} {frames : List (List UInt8)}
    (h : c.Reader P C hello frames part) : c.closed.Reader P C hello frames part := by
  refine h.frame rfl ?_ rfl (Nat.le_refl _) rfl rfl ?_ id
  · simp [closed_eq, finishes, ClientCall.isFinished]
  · simp [closed_eq, texts, ClientCall.text]

lemma Reader.encryptText {c : Conn QString Ctx} {hello part : List UInt8}
    {frames : List (List UInt8)} (h : c.Reader P C hello frames part) (text : QString) :
    (c.encryptText P text).Reader P C hello frames part :=
  h.frame rfl rfl rfl (Nat.le_refl _) rfl rfl rfl id

lemma Reader.length_reads {c : Conn QString Ctx} {hello part : List UInt8}
    {frames : List (List UInt8)} (h : c.Reader P C hello frames part) : c.reads.length ≤ 1 := by
  cases h with
  | idle hreads _ _ _ _ => simp [hreads]
  | packet hreads _ _ => simp [hreads]
  | loop _ _ hr _ =>
    rcases hr.reading with (⟨_, hreads⟩ | ⟨_, _, _, _, _, hreads⟩) | ⟨hreads, _⟩
    all_goals simp [hreads]

/-- The packet is made of the first 165 bytes, and the frames of all others. -/
lemma Reader.split_bytes {c : Conn QString Ctx} {hello part : List UInt8}
    {frames : List (List UInt8)} (h : c.Reader P C hello frames part) :
    (hello ++ frames.flatten ++ part).take 165 = hello ∧
      (hello ++ frames.flatten ++ part).drop 165 = frames.flatten ++ part := by
  have hshort : hello.length ≤ 165 → (hello ++ [].flatten ++ []).take 165 = hello ∧
      (hello ++ [].flatten ++ []).drop 165 = [].flatten ++ [] := by
    intro hle
    simp only [List.flatten_nil, List.append_nil]
    exact ⟨List.take_of_length_le hle, List.drop_of_length_le hle⟩
  cases h with
  | idle _ _ _ _ hle => exact hshort hle
  | packet _ _ hle => exact hshort hle
  | loop hlen _ _ _ =>
    rw [List.append_assoc, ← hlen]
    exact ⟨List.take_left, List.drop_left⟩

/-- The packets that the session has given to `async_write`. -/
structure Greets (c : Conn QString Ctx) : Prop where
  requests : c.hellos.countP (fun hp => hp.type = 1) + (if c.connecting = .idle then 0 else 1) ≤ 1
  answers : c.hellos.countP (fun hp => hp.type = 2) ≤ c.finishes
  types : ∀ hp ∈ c.hellos, hp.type = 1 ∨ hp.type = 2

lemma Greets.frame {c c' : Conn QString Ctx} (h : c.Greets) (hhellos : c'.hellos = c.hellos)
    (hidle : c.connecting = .idle → c'.connecting = .idle) (hfin : c.finishes ≤ c'.finishes) :
    c'.Greets := by
  refine ⟨?_, ?_, by rw [hhellos]; exact h.types⟩
  · have hrequests := h.requests
    rw [hhellos]
    by_cases hc : c.connecting = .idle
    · rw [if_pos (hidle hc)]
      omega
    · rw [if_neg hc] at hrequests
      split <;> omega
  · rw [hhellos]
    exact h.answers.trans hfin

lemma Greets.step {contains : List UInt8 → Bool} {c c' : Conn QString Ctx} {ev : SocketEvent}
    {effs : List (Effect (List UInt8) QString)} (h : c.Greets) (hs : Step P contains c ev c' effs) :
    c'.Greets := by
  have hfin := hs.finishes_le
  cases hs with
  | connectOk hc _ => exact h.frame rfl (fun hidle => by simp [hidle] at hc) hfin
  | connectDone hc _ =>
    have hrequests := h.requests
    have hanswers := h.answers
    rw [if_neg (by simp [hc])] at hrequests
    refine ⟨?_, ?_, ?_⟩
    · simp only [List.countP_append, if_true]
      exact hrequests
    · rw [List.countP_append]
      exact hanswers.trans hfin
    · intro hp hmem
      rcases List.mem_append.mp hmem with hold | hnew
      · exact h.types hp hold
      · rw [List.mem_singleton.mp hnew]
        exact Or.inl rfl
  | connectAborted _ _ => exact h.frame rfl (fun _ => rfl) hfin
  | connectFail _ => exact h.frame rfl (fun _ => rfl) hfin
  | @finished i op _ _ _ _ _ _ =>
    have hreply : (c.sess.reply P op.hello).countP (fun hp => hp.type = 1) = 0 ∧
        (c.sess.reply P op.hello).countP (fun hp => hp.type = 2) ≤ 1 ∧
        ∀ hp ∈ c.sess.reply P op.hello, hp.type = 2 := by
      unfold ChatSession.reply
      split
      · exact ⟨rfl, Nat.le_refl 1, fun hp hmem => by rw [List.mem_singleton.mp hmem]; rfl⟩
      · exact ⟨rfl, Nat.zero_le 1, fun hp hmem => absurd hmem List.not_mem_nil⟩
    refine ⟨?_, ?_, ?_⟩
    · rw [List.countP_append, hreply.1]
      exact h.requests
    · have hmore : finishes { c with calls := c.calls ++
          [.onHandShakeFinished (c.sess.adoptPeer P op.hello).id] } = c.finishes + 1 := by
        simp [finishes, ClientCall.isFinished]
      rw [List.countP_append]
      exact (Nat.add_le_add h.answers hreply.2.1).trans (Nat.le_of_eq hmore.symm)
    · intro hp hmem
      rcases List.mem_append.mp hmem with hold | hnew
      · exact h.types hp hold
      · exact Or.inr (hreply.2.2 hp hnew)
  | _ => exact h.frame rfl id hfin

lemma Greets.countP_type {c : Conn QString Ctx} (h : c.Greets) (hfin : c.finishes ≤ 1) (t : UInt8) :
    c.hellos.countP (fun hp => hp.type = t) ≤ 1 := by
  by_cases hone : t = 1
  · have hrequests := h.requests
    rw [hone]
    omega
  · by_cases htwo : t = 2
    · have hanswers := h.answers
      rw [htwo]
      omega
    · have hnone : c.hellos.countP (fun hp => hp.type = t) = 0 := by
        rw [List.countP_eq_zero]
        intro hp hmem
        rcases h.types hp hmem with htype | htype
        · simp [htype, Ne.symm hone]
        · simp [htype, Ne.symm htwo]
      omega

end Conn

namespace Endpoint

/-- The bytes that the reads of session `s` have been given. -/
def received (s : ℕ) (es : List (Event QString Ctx)) : List UInt8 :=
  es.flatMap fun ev =>
    match ev with
    | .socket t sev => if t = s then Link.arrived sev else []
    | _ => []

/-- In this step `onHandShake` of session `s` handles a packet. -/
def handlesHello (s : ℕ) (e : Endpoint QString Ctx) : Event QString Ctx → Bool
  | .socket t (.readDone i) =>
    decide (t = s) && (e.sessions[s]?).any fun c => (c.reads[i]?).any ReadOp.isHello
  | _ => false

lemma received_socket (s : ℕ) (es : List (Event QString Ctx)) (sev : SocketEvent) :
    received s (es ++ [.socket s sev]) = received s es ++ Link.arrived sev := by
  simp [received]

lemma received_of_ne {s : ℕ} {ev : Event QString Ctx} (h : ∀ sev, ev ≠ .socket s sev)
    (es : List (Event QString Ctx)) : received s (es ++ [ev]) = received s es := by
  cases ev with
  | socket t sev =>
    have hne : t ≠ s := fun heq => h sev (heq ▸ rfl)
    simp [received, hne]
  | _ => simp [received]

lemma handlesHello_of_ne {s : ℕ} {ev : Event QString Ctx} (h : ∀ sev, ev ≠ .socket s sev)
    (e : Endpoint QString Ctx) : e.handlesHello s ev = false := by
  cases ev with
  | socket t sev =>
    have hne : t ≠ s := fun heq => h sev (heq ▸ rfl)
    cases sev <;> simp [handlesHello, hne]
  | _ => rfl

variable [DecidableEq QString] {role : Role} {name : QString} {es : List (Event QString Ctx)}
  {e : Endpoint QString Ctx}

/-- Nothing happens to a session before it is made. -/
lemma not_mem_of_length_le (h : Runs P role name es e) {s : ℕ} (hs : e.sessions.length ≤ s)
    (sev : SocketEvent) : .socket s sev ∉ es := by
  revert hs
  refine h.invariant_history
    (I := fun es e => e.sessions.length ≤ s → .socket s sev ∉ es) (fun _ => List.not_mem_nil) ?_
  intro es e ev e' _ ih hs hlen hmem
  have hstep := step_step P hs
  have hlen' := hstep.length_le.trans hlen
  rcases List.mem_append.mp hmem with hold | hnew
  · exact ih hlen' hold
  · obtain rfl := List.mem_singleton.mp hnew
    cases hstep with
    | socket hc _ =>
      have hlt := (List.getElem?_eq_some_iff.mp hc).1
      omega

lemma received_of_length_le (h : Runs P role name es e) {s : ℕ} (hs : e.sessions.length ≤ s) :
    received s es = [] := by
  rw [received, List.flatMap_eq_nil_iff]
  intro ev hmem
  cases ev with
  | socket t sev =>
    have hne : t ≠ s := by
      rintro rfl
      exact not_mem_of_length_le h hs sev hmem
    exact if_neg hne
  | _ => rfl

/-- The number of packets that `onHandShake` of session `s` has handled. -/
def handledHellos (P : Primitives (List UInt8) QString Ctx) (role : Role) (name : QString) (s : ℕ)
    (es : List (Event QString Ctx)) : ℕ :=
  countSteps (step P) (handlesHello s) (init role name) es

lemma handledHellos_snoc (h : Runs P role name es e) (s : ℕ) (ev : Event QString Ctx) :
    handledHellos P role name s (es ++ [ev]) =
      handledHellos P role name s es + if e.handlesHello s ev then 1 else 0 :=
  countSteps_snoc _ _ h

lemma handledHellos_of_length_le (h : Runs P role name es e) {s : ℕ} (hs : e.sessions.length ≤ s) :
    handledHellos P role name s es = 0 := by
  refine countSteps_eq_zero (fun ev hmem e' => handlesHello_of_ne ?_ e') _
  rintro sev rfl
  exact not_mem_of_length_le h hs sev hmem

lemma handledHellos_of_ne (h : Runs P role name es e) {s : ℕ} {ev : Event QString Ctx}
    (hev : ∀ sev, ev ≠ .socket s sev) :
    handledHellos P role name s (es ++ [ev]) = handledHellos P role name s es := by
  rw [handledHellos_snoc h, handlesHello_of_ne hev]
  rfl

/-- Where a session of a run stands with its reads, and how its past led there. -/
structure ReadsInOrder (P : Primitives (List UInt8) QString Ctx) (C : StreamCipher Ctx)
    (role : Role) (name : QString) (es : List (Event QString Ctx)) (s : ℕ)
    (c : Conn QString Ctx) : Prop where
  reader : ∃ hello frames part, c.Reader P C hello frames part ∧
    received s es = hello ++ frames.flatten ++ part
  hellos : handledHellos P role name s es + c.opening ≤ 1

lemma ReadsInOrder.of_ne (hr : Runs P role name es e) {s : ℕ} {c c' : Conn QString Ctx}
    (h : ReadsInOrder P C role name es s c) {ev : Event QString Ctx}
    (hev : ∀ sev, ev ≠ .socket s sev)
    (hframe : ∀ hello frames part, c.Reader P C hello frames part → c'.Reader P C hello frames part)
    (hopening : c'.opening ≤ c.opening) : ReadsInOrder P C role name (es ++ [ev]) s c' := by
  obtain ⟨⟨hello, frames, part, hreader, hreceived⟩, hhellos⟩ := h
  refine ⟨⟨hello, frames, part, hframe _ _ _ hreader, ?_⟩, ?_⟩
  · rw [received_of_ne hev, hreceived]
  · rw [handledHellos_of_ne hr hev]
    omega

lemma ReadsInOrder.move (hC : P.mbedtlsChacha20Update = C.update) (hr : Runs P role name es e)
    {s : ℕ} {c c' : Conn QString Ctx} (hc : e.sessions[s]? = some c)
    (h : ReadsInOrder P C role name es s c) {sev : SocketEvent}
    {effs : List (Effect (List UInt8) QString)} {contains : List UInt8 → Bool}
    (hs : Conn.Step P contains c sev c' effs) :
    ReadsInOrder P C role name (es ++ [.socket s sev]) s c' := by
  obtain ⟨⟨hello, frames, part, hreader, hreceived⟩, hhellos⟩ := h
  obtain ⟨hello', frames', part', hreader', hbytes⟩ :=
    hreader.step hC (ordered P hr.guarded hc) hs
  refine ⟨⟨hello', frames', part', hreader', ?_⟩, ?_⟩
  · rw [received_socket, hreceived, hbytes]
  · rw [handledHellos_snoc hr]
    split
    · rename_i hhandles
      cases sev with
      | readDone i =>
        simp only [handlesHello, decide_true, Bool.true_and, hc, Option.any_some] at hhandles
        obtain ⟨op, hop, hhello⟩ := (Option.any_eq_true _ _).mp hhandles
        have hdone := hs.opening_hello P hop (of_decide_eq_true hhello)
        omega
      | _ => simp [handlesHello] at hhandles
    · have hle := hs.opening_le
      omega

lemma ReadsInOrder.new (hr : Runs P role name es e) {c : Conn QString Ctx}
    {ev : Event QString Ctx} (hev : ∀ sev, ev ≠ .socket e.sessions.length sev)
    (hreader : c.Reader P C [] [] []) (hopening : c.opening ≤ 1) :
    ReadsInOrder P C role name (es ++ [ev]) e.sessions.length c := by
  refine ⟨⟨[], [], [], hreader, ?_⟩, ?_⟩
  · rw [received_of_ne hev, received_of_length_le hr (Nat.le_refl _)]
    rfl
  · rw [handledHellos_of_ne hr hev, handledHellos_of_length_le hr (Nat.le_refl _)]
    omega

theorem readsInOrder (hC : P.mbedtlsChacha20Update = C.update) (h : Runs P role name es e) {s : ℕ}
    {c : Conn QString Ctx} (hc : e.sessions[s]? = some c) : ReadsInOrder P C role name es s c := by
  revert s c
  refine h.invariant_history (I := fun es e => ∀ {s : ℕ} {c : Conn QString Ctx},
    e.sessions[s]? = some c → ReadsInOrder P C role name es s c) ?_ ?_
  · intro s c hc
    simp [init] at hc
  · intro es e ev e' hr ih hs s c hc
    cases (step_step P hs).session P hc with
    | same hold hev => exact (ih hold).of_ne hr hev (fun _ _ _ h => h) (Nat.le_refl _)
    | accept hev _ ht hnew =>
      subst hev ht hnew
      exact .new hr (by simp) (.packet rfl rfl (by simp)) (by rfl)
    | connect hev _ ht hnew _ =>
      subst hev ht hnew
      exact .new hr (by simp) (.idle rfl rfl rfl (fun _ => rfl) (by simp)) (by rfl)
    | move hev hc₀ hconn _ =>
      subst hev
      exact (ih hc₀).move hC hr hc₀ hconn
    | encrypt hev hc₀ _ henc =>
      subst hev henc
      exact (ih hc₀).of_ne hr (by simp) (fun _ _ _ h => h.encryptText _) (Nat.le_refl _)
    | close hev _ hclose =>
      subst hev
      rcases closeAll_session (owned (Runs.guarded P hr)) hclose with ⟨c₀, id, hc₀, _, rfl⟩ | hold
      · exact (ih hc₀).of_ne hr (by simp) (fun _ _ _ h => h.closed) (Nat.le_refl _)
      · exact (ih hold).of_ne hr (by simp) (fun _ _ _ h => h) (Nat.le_refl _)

lemma greets (h : Runs P role name es e) {s : ℕ} {c : Conn QString Ctx}
    (hc : e.sessions[s]? = some c) : c.Greets := by
  have hrule : SessionRule P (fun _ _ => True) role name (fun _ _ c => c.Greets) :=
    { mono := fun _ _ _ _ h => h
      accept := fun _ _ _ _ _ _ _ => ⟨Nat.zero_le 1, Nat.le_refl _, nofun⟩
      connect := fun _ _ _ _ _ _ _ _ _ => ⟨Nat.le_refl 1, Nat.le_refl _, nofun⟩
      step := fun _ _ _ _ _ _ _ _ _ hs _ _ h => h.step hs
      closed := fun _ _ _ h => h.frame rfl id (by simp [Conn.closed_eq, Conn.finishes])
      encrypt := fun _ _ _ _ _ _ _ _ _ _ h => ⟨h.requests, h.answers, h.types⟩ }
  exact hrule.holds P h.guarded s c hc

/-- In every state that a server or a client can reach, each of its sessions has at most one read
outstanding; `onHandShake` has handled at most one packet of it, `initChaCha20` has run at most once,
and at most one packet of each type has been written. The first 165 bytes received are the packet,
and all further ones belong to the frames that have been handled and to the frame being read. -/
theorem one_reader (q : Qt (List UInt8) QString) (k : Curve) {role : Role} {name : QString}
    {es : List (Event QString ChachaContext)} {e : Endpoint QString ChachaContext}
    (h : Runs (bytePrimitives q k mbedtlsChacha20) role name es e) {s : ℕ}
    {c : Conn QString ChachaContext} (hc : e.sessions[s]? = some c) :
    c.reads.length ≤ 1 ∧ handledHellos (bytePrimitives q k mbedtlsChacha20) role name s es ≤ 1 ∧
      c.sess.initRuns ≤ 1 ∧ (∀ t : UInt8, c.hellos.countP (fun hp => hp.type = t) ≤ 1) ∧
      ∃ frames part, (received s es).drop 165 = frames.flatten ++ part ∧
        c.Reader (bytePrimitives q k mbedtlsChacha20) chacha20Cipher ((received s es).take 165)
          frames part := by
  obtain ⟨⟨hello, frames, part, hreader, hreceived⟩, hhellos⟩ :=
    readsInOrder (C := chacha20Cipher) rfl h hc
  have hord := ordered _ h.guarded hc
  have hfin : c.finishes ≤ 1 := by
    have := hord.opening
    omega
  have hinit := hord.initRuns
  refine ⟨hreader.length_reads, by omega, by omega, (greets h hc).countP_type hfin, ?_⟩
  rw [hreceived]
  obtain ⟨htake, hdrop⟩ := hreader.split_bytes
  exact ⟨frames, part, hdrop, by rw [htake]; exact hreader⟩

/-- A server that has received a request and the beginning of a frame. -/
theorem one_reader_request :
    ∃ (es : List (Event (List UInt8) ChachaContext)) (e : Endpoint (List UInt8) ChachaContext)
      (c : Conn (List UInt8) ChachaContext), Runs samplePrimitives .chatServer [] es e ∧
      e.sessions[0]? = some c ∧ received 0 es = (sampleHello 1 7 5).pack ++ [2, 0, 1] ∧
      c.reads.length ≤ 1 ∧ handledHellos samplePrimitives .chatServer [] 0 es ≤ 1 := by
  let es : List (Event (List UInt8) ChachaContext) :=
    [.updatePeerList [⟨[], sampleKey 7, [], 0⟩],
      .accept (sampleKey 3) sampleContext sampleContext,
      .socket 0 (.readSome 0 (sampleHello 1 7 5).pack), .socket 0 (.readDone 0),
      .socket 0 (.readSome 0 [2, 0]), .socket 0 (.readDone 0), .socket 0 (.readSome 0 [1])]
  obtain ⟨e, hrun, hp⟩ := exists_run_of_exec (Endpoint.step samplePrimitives) es
    (fun e => (e.sessions[0]?).isSome) (s := Endpoint.init .chatServer []) (by decide +kernel)
  obtain ⟨c, hc⟩ := Option.isSome_iff_exists.mp hp
  have hone := one_reader sampleQt sampleCurve hrun hc
  exact ⟨es, e, c, hrun, hc, by simp [es, received, Link.arrived], hone.1, hone.2.1⟩

end Endpoint

end Enchat
