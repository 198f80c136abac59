import Enchat.Library.ListUpdate
import Enchat.Proofs.ConnStep

/-!
# One handshake for each session

A session is in one place of its handshake at a time: connecting, sending its request, waiting for
a packet, or finished. Counting these places gives an invariant of all steps, and from it follows
that `onHandShake` handles one packet and that texts come after the end of the handshake.
-/

namespace Enchat
open Buffer ListUpdate

variable {QString Ctx : Type} (P : Primitives (List UInt8) QString Ctx)

def ReadOp.isHello (op : ReadOp) : Bool := op.handler = .onHandShake

def WriteOp.isRequest (op : WriteOp) : Bool := op.hello = some 1

def ClientCall.isFinished : ClientCall QString → Bool
  | .onHandShakeFinished _ => true
  | _ => false

namespace Conn

/-- The number of handshakes the session has reported as finished. -/
def finishes (c : Conn QString Ctx) : ℕ := c.calls.countP ClientCall.isFinished

def helloReads (c : Conn QString Ctx) : ℕ := c.reads.countP ReadOp.isHello

def frameReads (c : Conn QString Ctx) : ℕ := c.reads.countP (fun op => !op.isHello)

/-- The operations that lead to the end of a handshake. -/
def opening (c : Conn QString Ctx) : ℕ :=
  (if c.connecting = .idle then 0 else 1) + c.writes.countP WriteOp.isRequest + c.helloReads

structure Ordered (c : Conn QString Ctx) : Prop where
  opening : c.opening + c.finishes ≤ 1
  frames : c.frameReads ≤ c.finishes
  initRuns : c.sess.initRuns = c.finishes
  texts : ∀ (i : ℕ) id text, c.calls[i]? = some (ClientCall.onTextMsg id text) →
    ∃ (j : ℕ) (id' : QString), j < i ∧ c.calls[j]? = some (ClientCall.onHandShakeFinished id')
  ids : ∀ id, ClientCall.onHandShakeFinished id ∈ c.calls ∨
    (∃ text, ClientCall.onTextMsg id text ∈ c.calls) → c.sess.id = id

/-- `ChatSession::close` on the session. -/
def closed (c : Conn QString Ctx) : Conn QString Ctx := c.performAll c.sess.close

lemma closed_eq (c : Conn QString Ctx) :
    c.closed = { c with calls := c.calls ++ [.onClose c.sess.id], isOpen := false } := rfl

lemma finishes_pos_iff (c : Conn QString Ctx) :
    0 < c.finishes ↔ ∃ id, ClientCall.onHandShakeFinished id ∈ c.calls := by
  rw [finishes, List.countP_pos_iff]
  constructor
  · rintro ⟨call, hmem, hfin⟩
    cases call with
    | onHandShakeFinished id => exact ⟨id, hmem⟩
    | _ => simp [ClientCall.isFinished] at hfin
  · rintro ⟨id, hmem⟩
    exact ⟨_, hmem, rfl⟩

lemma Ordered.finished_of_text {c : Conn QString Ctx} (h : c.Ordered) {id text : QString}
    (hmem : ClientCall.onTextMsg id text ∈ c.calls) : 0 < c.finishes := by
  obtain ⟨i, hi⟩ := List.mem_iff_getElem?.mp hmem
  obtain ⟨j, id', _, hj⟩ := h.texts i id text hi
  exact c.finishes_pos_iff.mpr ⟨id', List.mem_of_getElem? hj⟩

/-- A session that has been announced has finished its handshake. -/
lemma Ordered.finished_of_announced {c : Conn QString Ctx} (h : c.Ordered) {id : QString}
    (hmem : ClientCall.onHandShakeFinished id ∈ c.calls ∨
      ∃ text, ClientCall.onTextMsg id text ∈ c.calls) : 0 < c.finishes := by
  rcases hmem with hmem | ⟨text, hmem⟩
  · exact c.finishes_pos_iff.mpr ⟨id, hmem⟩
  · exact h.finished_of_text hmem

lemma Ordered.no_calls {c : Conn QString Ctx} (h : c.Ordered) (hfin : c.finishes = 0) (id : QString) :
    ¬(ClientCall.onHandShakeFinished id ∈ c.calls ∨
      (∃ text, ClientCall.onTextMsg id text ∈ c.calls)) := by
  intro hmem
  have hpos := h.finished_of_announced hmem
  omega

lemma helloReads_pos {c : Conn QString Ctx} {i : ℕ} {op : ReadOp} (hop : c.reads[i]? = some op)
    (hh : op.handler = .onHandShake) : 0 < c.helloReads :=
  List.countP_pos_iff.mpr ⟨op, List.mem_of_getElem? hop, by simp [ReadOp.isHello, hh]⟩

lemma Ordered.waiting_unfinished {c : Conn QString Ctx} (h : c.Ordered)
    (hpos : 0 < c.helloReads) : c.finishes = 0 := by
  have := h.opening
  simp only [Conn.opening] at this
  omega

lemma texts_append {c : Conn QString Ctx} (h : c.Ordered) {call : ClientCall QString}
    (hcall : ∀ id text, call = ClientCall.onTextMsg id text → 0 < c.finishes) (i : ℕ) (id text : QString)
    (hi : (c.calls ++ [call])[i]? = some (ClientCall.onTextMsg id text)) :
    ∃ (j : ℕ) (id' : QString), j < i ∧ (c.calls ++ [call])[j]? = some (ClientCall.onHandShakeFinished id') := by
  rw [List.getElem?_append] at hi
  split at hi
  · obtain ⟨j, id', hj, hfin⟩ := h.texts i id text hi
    exact ⟨j, id', hj, by rw [List.getElem?_append_left (by omega)]; exact hfin⟩
  · have hmem := List.mem_of_getElem? hi
    have hmem' : call = ClientCall.onTextMsg id text := (List.mem_singleton.mp hmem).symm
    obtain ⟨id', hfin⟩ := c.finishes_pos_iff.mp (hcall id text hmem')
    obtain ⟨j, hj⟩ := List.mem_iff_getElem?.mp hfin
    have hlen := (List.getElem?_eq_some_iff.mp hj).1
    exact ⟨j, id', by omega, by rw [List.getElem?_append_left hlen]; exact hj⟩

@[simp] lemma isHello_helloRead : helloRead.isHello = true := rfl

@[simp] lemma isHello_headRead : headRead.isHello = false := rfl

@[simp] lemma isHello_bodyRead (msg : List UInt8) : (bodyRead msg).isHello = false := rfl

lemma countP_isRequest_reply (s : ChatSession (List UInt8) QString Ctx)
    (hp : HelloPacket (List UInt8)) :
    ((s.reply P hp).map (fun hp => (⟨some hp.type, hp.pack⟩ : WriteOp))).countP
      WriteOp.isRequest = 0 := by
  unfold ChatSession.reply
  split
  · simp [WriteOp.isRequest, ChatSession.helloPacket]
  · rfl

lemma countP_hello_done {c : Conn QString Ctx} {i : ℕ} {op : ReadOp}
    (hop : c.reads[i]? = some op) (hh : op.handler = .onHandShake) :
    (c.reads.eraseIdx i).countP ReadOp.isHello + 1 = c.helloReads ∧
      (c.reads.eraseIdx i).countP (fun op => !op.isHello) = c.frameReads := by
  have hello : op.isHello = true := by simp [ReadOp.isHello, hh]
  have hcount := countP_eraseIdx_add ReadOp.isHello hop
  have hcount' := countP_eraseIdx_add (fun op => !op.isHello) hop
  simp only [hello, if_true, Bool.not_true, Bool.false_eq_true, if_false] at hcount hcount'
  exact ⟨hcount, hcount'⟩

lemma countP_frame_done {c : Conn QString Ctx} {i : ℕ} {op : ReadOp}
    (hop : c.reads[i]? = some op) (hh : op.handler ≠ .onHandShake) :
    (c.reads.eraseIdx i).countP ReadOp.isHello = c.helloReads ∧
      (c.reads.eraseIdx i).countP (fun op => !op.isHello) + 1 = c.frameReads := by
  have hello : op.isHello = false := by simp [ReadOp.isHello, hh]
  have hcount := countP_eraseIdx_add ReadOp.isHello hop
  have hcount' := countP_eraseIdx_add (fun op => !op.isHello) hop
  simp only [hello, if_true, Bool.not_false, Bool.false_eq_true, if_false] at hcount hcount'
  exact ⟨hcount, hcount'⟩

/-- The handler of a hello read uses up one of the operations that lead to the end. -/
lemma Step.opening_hello {contains : List UInt8 → Bool} {c c' : Conn QString Ctx} {i : ℕ}
    {effs : List (Effect (List UInt8) QString)} (hs : Step P contains c (.readDone i) c' effs)
    {op : ReadOp} (hop : c.reads[i]? = some op) (hh : op.handler = .onHandShake) :
    c'.opening + 1 = c.opening := by
  have hcount := (countP_hello_done hop hh).1
  cases hs with
  | unlisted _ _ _ _ => simp only [Conn.opening, helloReads] at hcount ⊢; omega
  | badSignature _ _ _ _ _ => simp only [Conn.opening, helloReads] at hcount ⊢; omega
  | noSharedKey _ _ _ _ _ _ => simp only [Conn.opening, helloReads] at hcount ⊢; omega
  | finished _ _ _ _ _ _ =>
    simp only [Conn.opening, helloReads, List.countP_append, List.countP_singleton,
      countP_isRequest_reply, isHello_headRead] at hcount ⊢
    simp
    omega
  | headDone hop' _ hh' =>
    obtain rfl := Option.some.inj (hop.symm.trans hop')
    simp [hh] at hh'
  | bodyDone hop' _ hh' _ =>
    obtain rfl := Option.some.inj (hop.symm.trans hop')
    simp [hh] at hh'
  | bodySkipped hop' _ hh' _ =>
    obtain rfl := Option.some.inj (hop.symm.trans hop')
    simp [hh] at hh'

/-- No step adds to the operations that lead to the end of a handshake. -/
theorem Step.opening_le {contains : List UInt8 → Bool} {c c' : Conn QString Ctx} {ev : SocketEvent}
    {effs : List (Effect (List UInt8) QString)} (hs : Step P contains c ev c' effs) :
    c'.opening ≤ c.opening := by
  have hhello : ∀ {i : ℕ} {op : ReadOp}, ev = .readDone i → c.reads[i]? = some op →
      op.handler = .onHandShake → c'.opening ≤ c.opening := by
    rintro i op rfl hop hh
    have huses := hs.opening_hello P hop hh
    omega
  cases hs with
  | connectOk hc => simp [Conn.opening, helloReads, hc]
  | connectDone hc _ =>
    have hone : [(⟨some 1, (c.sess.helloPacket P 1).pack⟩ : WriteOp)].countP WriteOp.isRequest = 1 :=
      rfl
    simp only [Conn.opening, helloReads, hc, List.countP_append, hone, if_true, if_false, reduceCtorEq]
    omega
  | connectAborted hc _ => simp [Conn.opening, helloReads, hc]
  | connectFail hc => simp [Conn.opening, helloReads, hc]
  | writeSome hop _ _ _ =>
    simp only [Conn.opening, helloReads]
    apply Nat.add_le_add_right
    apply Nat.add_le_add_left
    exact Nat.le_of_eq (countP_set_of_eq WriteOp.isRequest hop rfl)
  | requestDone hop =>
    have hcount := countP_eraseIdx_add WriteOp.isRequest hop
    have hreq : WriteOp.isRequest ⟨some 1, []⟩ = true := rfl
    rw [hreq, if_pos rfl] at hcount
    simp only [Conn.opening, helloReads, List.countP_append, List.countP_singleton,
      isHello_helloRead, if_true]
    omega
  | writeDone hop _ _ =>
    have hcount := countP_eraseIdx_add WriteOp.isRequest hop
    simp only [Conn.opening, helloReads]
    omega
  | writeFail hop _ =>
    have hcount := countP_eraseIdx_add WriteOp.isRequest hop
    simp only [Conn.opening, helloReads]
    omega
  | readSome hop _ _ _ =>
    simp only [Conn.opening, helloReads]
    apply Nat.add_le_add_left
    exact Nat.le_of_eq (countP_set_of_eq ReadOp.isHello hop rfl)
  | readFail hop _ =>
    have hcount := countP_eraseIdx_add ReadOp.isHello hop
    simp only [Conn.opening, helloReads]
    omega
  | unlisted hop _ hh _ => exact hhello rfl hop hh
  | badSignature hop _ hh _ _ => exact hhello rfl hop hh
  | noSharedKey hop _ hh _ _ _ => exact hhello rfl hop hh
  | finished hop _ hh _ _ _ => exact hhello rfl hop hh
  | headDone hop _ hh =>
    have hcount := (countP_frame_done hop (by simp [hh])).1
    simp only [Conn.opening, helloReads, List.countP_append, List.countP_singleton] at hcount ⊢
    simp [hcount]
  | bodyDone hop _ hh _ =>
    have hcount := (countP_frame_done hop (by simp [hh])).1
    simp only [Conn.opening, helloReads, List.countP_append, List.countP_singleton] at hcount ⊢
    simp [hcount]
  | bodySkipped hop _ hh _ =>
    have hcount := (countP_frame_done hop (by simp [hh])).1
    simp only [Conn.opening, helloReads, List.countP_append, List.countP_singleton] at hcount ⊢
    simp [hcount]
  | startWrite _ =>
    simp [Conn.opening, helloReads, WriteOp.isRequest]

/-- A session reports the end of a handshake only when it accepts a packet. -/
theorem Step.finishes_cases {contains : List UInt8 → Bool} {c c' : Conn QString Ctx}
    {ev : SocketEvent} {effs : List (Effect (List UInt8) QString)}
    (hs : Step P contains c ev c' effs) :
    (c'.finishes = c.finishes ∧ c'.sess.initRuns = c.sess.initRuns) ∨
      ∃ (i : ℕ) (op : ReadOp), ev = .readDone i ∧ c.reads[i]? = some op ∧
        op.got.length = op.need ∧ op.handler = .onHandShake ∧ c.sess.Admits P contains op.hello ∧
        c.sess.Verifies P op.hello ∧
        (P.x25519 c.sess.ephemeralPriKey op.hello.ephemeralKey).2 = true ∧
        c'.sess = (c.sess.agree P op.hello).initChaCha20 P ∧ c'.isOpen = c.isOpen ∧
        c'.calls = c.calls ++ [.onHandShakeFinished (c.sess.adoptPeer P op.hello).id] ∧
        c'.finishes = c.finishes + 1 := by
  cases hs with
  | @finished i op hop hf hh ha hv hx =>
    refine Or.inr ⟨i, op, rfl, hop, hf, hh, ha, hv, hx, rfl, rfl, rfl, ?_⟩
    simp [finishes, ClientCall.isFinished]
  | connectDone _ _ => exact Or.inl ⟨by simp [finishes, ClientCall.isFinished], rfl⟩
  | unlisted _ _ _ _ => exact Or.inl ⟨by simp [finishes, ClientCall.isFinished], rfl⟩
  | badSignature _ _ _ _ _ => exact Or.inl ⟨by simp [finishes, ClientCall.isFinished], by simp⟩
  | noSharedKey _ _ _ _ _ _ => exact Or.inl ⟨rfl, by simp⟩
  | bodyDone _ _ _ _ =>
    refine Or.inl ⟨by simp [finishes, ClientCall.isFinished], ?_⟩
    simp only
    rw [ChatSession.handleReadMsg_eq]
  | _ => exact Or.inl ⟨rfl, rfl⟩

lemma Step.finishes_le {contains : List UInt8 → Bool} {c c' : Conn QString Ctx} {ev : SocketEvent}
    {effs : List (Effect (List UInt8) QString)} (hs : Step P contains c ev c' effs) :
    c.finishes ≤ c'.finishes := by
  rcases hs.finishes_cases with ⟨hfin, _⟩ | ⟨_, _, _, _, _, _, _, _, _, _, _, _, hfin⟩ <;> omega

lemma Step.frameReads_le {contains : List UInt8 → Bool} {c c' : Conn QString Ctx}
    {ev : SocketEvent} {effs : List (Effect (List UInt8) QString)}
    (hs : Step P contains c ev c' effs) :
    c'.frameReads + c.finishes ≤ c.frameReads + c'.finishes := by
  cases hs with
  | requestDone _ => simp [frameReads, finishes]
  | connectDone _ _ => simp [frameReads, finishes]
  | readSome hop _ _ _ =>
    simp only [frameReads, finishes]
    apply Nat.add_le_add_right
    apply Nat.le_of_eq
    apply countP_set_of_eq _ hop
    rfl
  | readFail hop _ =>
    have hcount := countP_eraseIdx_add (fun op => !op.isHello) hop
    simp only [frameReads, finishes]
    omega
  | unlisted hop _ hh _ =>
    have hcount := (countP_hello_done hop hh).2
    simp only [frameReads, finishes, List.countP_append] at hcount ⊢
    omega
  | badSignature hop _ hh _ _ =>
    have hcount := (countP_hello_done hop hh).2
    simp only [frameReads, finishes, List.countP_append] at hcount ⊢
    omega
  | noSharedKey hop _ hh _ _ _ =>
    have hcount := (countP_hello_done hop hh).2
    simp only [frameReads, finishes] at hcount ⊢
    omega
  | finished hop _ hh _ _ _ =>
    have hcount := (countP_hello_done hop hh).2
    simp only [frameReads, finishes, List.countP_append, List.countP_singleton] at hcount ⊢
    simp [ClientCall.isFinished]
    omega
  | headDone hop _ hh =>
    have hcount := (countP_frame_done hop (by simp [hh])).2
    simp only [frameReads, finishes, List.countP_append, List.countP_singleton] at hcount ⊢
    simp
    omega
  | bodyDone hop _ hh _ =>
    have hcount := (countP_frame_done hop (by simp [hh])).2
    simp only [frameReads, finishes, List.countP_append, List.countP_singleton] at hcount ⊢
    simp
    omega
  | bodySkipped hop _ hh _ =>
    have hcount := (countP_frame_done hop (by simp [hh])).2
    simp only [frameReads, finishes, List.countP_append, List.countP_singleton] at hcount ⊢
    simp
    omega
  | _ => exact Nat.le_refl _

lemma Step.texts {contains : List UInt8 → Bool} {c c' : Conn QString Ctx} {ev : SocketEvent}
    {effs : List (Effect (List UInt8) QString)} (h : c.Ordered)
    (hs : Step P contains c ev c' effs) (i : ℕ) (id text : QString)
    (hi : c'.calls[i]? = some (ClientCall.onTextMsg id text)) :
    ∃ (j : ℕ) (id' : QString), j < i ∧
      c'.calls[j]? = some (ClientCall.onHandShakeFinished id') := by
  cases hs with
  | connectDone _ _ => exact texts_append h (fun id text he => by cases he) i id text hi
  | unlisted _ _ _ _ => exact texts_append h (fun id text he => by cases he) i id text hi
  | badSignature _ _ _ _ _ => exact texts_append h (fun id text he => by cases he) i id text hi
  | finished _ _ _ _ _ _ => exact texts_append h (fun id text he => by cases he) i id text hi
  | bodyDone hop _ hh _ =>
    refine texts_append h (fun id text _ => ?_) i id text hi
    have hcount := (countP_frame_done hop (by simp [hh])).2
    have hframes := h.frames
    omega
  | _ => exact h.texts i id text hi

lemma Step.ids {contains : List UInt8 → Bool} {c c' : Conn QString Ctx} {ev : SocketEvent}
    {effs : List (Effect (List UInt8) QString)} (h : c.Ordered)
    (hs : Step P contains c ev c' effs) (id : QString)
    (hmem : ClientCall.onHandShakeFinished id ∈ c'.calls ∨
      (∃ text, ClientCall.onTextMsg id text ∈ c'.calls)) : c'.sess.id = id := by
  have hnone : ∀ {i : ℕ} {op : ReadOp}, c.reads[i]? = some op → op.handler = .onHandShake →
      ∀ id, ¬(ClientCall.onHandShakeFinished id ∈ c.calls ∨
        (∃ text, ClientCall.onTextMsg id text ∈ c.calls)) :=
    fun hop hh => h.no_calls (h.waiting_unfinished (helloReads_pos hop hh))
  cases hs with
  | connectDone _ _ => exact h.ids id (by simpa using hmem)
  | unlisted _ _ _ _ => exact h.ids id (by simpa using hmem)
  | badSignature hop _ hh _ _ => exact absurd (by simpa using hmem) (hnone hop hh id)
  | noSharedKey hop _ hh _ _ _ => exact absurd hmem (hnone hop hh id)
  | @finished i op hop _ hh _ _ _ =>
    have hid : ((c.sess.agree P op.hello).initChaCha20 P).id =
        (c.sess.adoptPeer P op.hello).id := rfl
    rw [hid]
    by_contra hne
    refine hnone hop hh id ?_
    simpa [Ne.symm hne] using hmem
  | @bodyDone i op _ _ _ _ =>
    have hid : (c.sess.handleReadMsg P false op.buffer).1.id = c.sess.id := by
      rw [ChatSession.handleReadMsg_eq]
    rw [hid]
    by_contra hne
    exact hne (h.ids id (by simpa [Ne.symm hne] using hmem))
  | _ => exact h.ids id hmem

theorem Ordered.step {contains : List UInt8 → Bool} {c c' : Conn QString Ctx} {ev : SocketEvent}
    {effs : List (Effect (List UInt8) QString)} (h : c.Ordered)
    (hs : Step P contains c ev c' effs) : c'.Ordered := by
  have hopening := h.opening
  have hframes := h.frames
  have hinit := h.initRuns
  have hle := hs.opening_le
  have hframes' := hs.frameReads_le
  refine ⟨?_, by omega, ?_, hs.texts P h, hs.ids P h⟩
  · rcases hs.finishes_cases with ⟨hfin, _⟩ | ⟨i, op, rfl, hop, _, hh, _, _, _, _, _, _, hfin⟩
    · omega
    · have hdone := hs.opening_hello P hop hh
      omega
  · rcases hs.finishes_cases with ⟨hfin, hruns⟩ | ⟨i, op, _, _, _, _, _, _, _, hsess, _, _, hfin⟩
    · omega
    · rw [hsess, ChatSession.initChaCha20_initRuns, ChatSession.agree_initRuns]
      omega

lemma Ordered.closed {c : Conn QString Ctx} (h : c.Ordered) : c.closed.Ordered := by
  have hopening := h.opening
  have hframes := h.frames
  have hinit := h.initRuns
  rw [closed_eq]
  refine ⟨?_, ?_, ?_, ?_, ?_⟩
  · simpa [Conn.opening, finishes, helloReads, ClientCall.isFinished] using hopening
  · simpa [frameReads, finishes, ClientCall.isFinished] using hframes
  · simpa [finishes, ClientCall.isFinished] using hinit
  · exact texts_append h (fun id text he => by cases he)
  · intro id hmem
    exact h.ids id (by simpa using hmem)

lemma Ordered.encryptText {c : Conn QString Ctx} (h : c.Ordered) (text : QString) :
    (c.encryptText P text).Ordered :=
  ⟨h.opening, h.frames, h.initRuns, h.texts, h.ids⟩

lemma Ordered.new {c : Conn QString Ctx} (hcalls : c.calls = []) (hruns : c.sess.initRuns = 0)
    (hopening : c.opening ≤ 1) (hframes : c.frameReads = 0) : c.Ordered := by
  refine ⟨?_, ?_, ?_, ?_, ?_⟩
  · simpa [finishes, hcalls] using hopening
  · simp [hframes]
  · simp [finishes, hcalls, hruns]
  · simp [hcalls]
  · simp [hcalls]

end Conn

end Enchat
