import Mathlib.Data.List.Perm.Basic
import Enchat.Model.Connection

/-!
# What one step of a session can do

`Conn.Step` lists every way in which `Conn.react` changes a session, with the state after it
spelled out. All invariants of sessions are derived from it.
-/

namespace Enchat
open Buffer

variable {QString Ctx : Type} (P : Primitives (List UInt8) QString Ctx)

/-- The read that `receiveHandshake` starts. -/
def helloRead : ReadOp where
  handler := .onHandShake
  msg := List.replicate 165 0
  offset := 0
  need := 165
  got := []

/-- The read that `startRead` starts. -/
def headRead : ReadOp where
  handler := .handleReadMsgHead
  msg := List.replicate 4096 0
  offset := 0
  need := 2
  got := []

/-- The read that `handleReadMsgHead` starts. -/
def bodyRead (msg : List UInt8) : ReadOp where
  handler := .handleReadMsg
  msg := msg
  offset := 2
  need := getU16 msg 0 + 2
  got := []

@[simp] lemma headRead_handler : headRead.handler = .handleReadMsgHead := rfl

def ReadOp.hello (op : ReadOp) : HelloPacket (List UInt8) := HelloPacket.ofBytes op.buffer

namespace ChatSession

variable {QByteArray : Type} (Q : Primitives QByteArray QString Ctx)

/-- The first check of `onHandShake` does not refuse the packet. -/
def Admits (containsPeerPubkey : QByteArray → Bool) (s : ChatSession QByteArray QString Ctx)
    (hp : HelloPacket QByteArray) : Prop :=
  Q.isEmpty s.peerStaticPubkey = true → containsPeerPubkey hp.staticKey = true

/-- The packet is signed by the peer of the session. -/
def Verifies (s : ChatSession QByteArray QString Ctx) (hp : HelloPacket QByteArray) : Prop :=
  Q.ed25519Verify hp.sig hp.toHelloBody (s.adoptPeer Q hp).peerStaticPubkey = true

instance (contains : QByteArray → Bool) (s : ChatSession QByteArray QString Ctx)
    (hp : HelloPacket QByteArray) : Decidable (s.Admits Q contains hp) :=
  inferInstanceAs (Decidable (_ = _ → _ = _))

instance (s : ChatSession QByteArray QString Ctx) (hp : HelloPacket QByteArray) :
    Decidable (s.Verifies Q hp) :=
  inferInstanceAs (Decidable (_ = _))

/-- The session once it has taken the name from the packet and computed the shared key. -/
def agree (s : ChatSession QByteArray QString Ctx) (hp : HelloPacket QByteArray) :
    ChatSession QByteArray QString Ctx :=
  { s.adoptPeer Q hp with
    peerName := hp.name
    chacha20Key := (Q.x25519 s.ephemeralPriKey hp.ephemeralKey).1 }

def reply (s : ChatSession QByteArray QString Ctx) (hp : HelloPacket QByteArray) :
    List (HelloPacket QByteArray) :=
  if hp.type = 1 then [((s.agree Q hp).initChaCha20 Q).helloPacket Q 2] else []

@[simp] lemma adoptPeer_ephemeralPriKey (s : ChatSession QByteArray QString Ctx)
    (hp : HelloPacket QByteArray) : (s.adoptPeer Q hp).ephemeralPriKey = s.ephemeralPriKey := by
  unfold adoptPeer
  split <;> rfl

@[simp] lemma adoptPeer_initRuns (s : ChatSession QByteArray QString Ctx)
    (hp : HelloPacket QByteArray) : (s.adoptPeer Q hp).initRuns = s.initRuns := by
  unfold adoptPeer
  split <;> rfl

@[simp] lemma agree_initRuns (s : ChatSession QByteArray QString Ctx)
    (hp : HelloPacket QByteArray) : (s.agree Q hp).initRuns = s.initRuns :=
  adoptPeer_initRuns Q s hp

@[simp] lemma initChaCha20_initRuns (s : ChatSession QByteArray QString Ctx) :
    (s.initChaCha20 Q).initRuns = s.initRuns + 1 := rfl

lemma handleReadMsg_eq (s : ChatSession QByteArray QString Ctx) (ec : Bool) (msg : List UInt8) :
    (s.handleReadMsg Q ec msg).1 =
      { s with chachaDctx := (s.handleReadMsg Q ec msg).1.chachaDctx } := by
  unfold handleReadMsg
  split
  · rfl
  · dsimp only
    split <;> rfl

/-- A frame of protocol 1 is handed to the client, and the next frame is read. -/
lemma handleReadMsg_effects (s : ChatSession QByteArray QString Ctx) {msg : List UInt8}
    (hp : getU16 msg 2 = 1) :
    (s.handleReadMsg Q false msg).2.2 =
      [.client (.onTextMsg s.id (Q.fromUtf8 (cString ((s.handleReadMsg Q false msg).2.1.drop 4)))),
        startRead] := by
  simp only [handleReadMsg, hp, Bool.false_eq_true, if_false, if_true]

/-- The four outcomes of `onHandShake` on a packet that was read without an error. -/
theorem onHandShake_cases (contains : QByteArray → Bool) (s : ChatSession QByteArray QString Ctx)
    (hp : HelloPacket QByteArray) :
    (¬Admits Q contains s hp ∧ s.onHandShake Q contains false hp = (s, s.close)) ∨
    (Admits Q contains s hp ∧ ¬Verifies Q s hp ∧
      s.onHandShake Q contains false hp = (s.adoptPeer Q hp, (s.adoptPeer Q hp).close)) ∨
    (Admits Q contains s hp ∧ Verifies Q s hp ∧
      (Q.x25519 s.ephemeralPriKey hp.ephemeralKey).2 = false ∧
      s.onHandShake Q contains false hp = (s.agree Q hp, [])) ∨
    (Admits Q contains s hp ∧ Verifies Q s hp ∧
      (Q.x25519 s.ephemeralPriKey hp.ephemeralKey).2 = true ∧
      s.onHandShake Q contains false hp = ((s.agree Q hp).initChaCha20 Q,
        (s.reply Q hp).map Effect.asyncWriteHello ++
          [.client (.onHandShakeFinished (s.adoptPeer Q hp).id), startRead])) := by
  by_cases hadm : Admits Q contains s hp
  · have hguard : (Q.isEmpty s.peerStaticPubkey && !contains hp.staticKey) = false := by
      unfold Admits at hadm
      cases he : Q.isEmpty s.peerStaticPubkey with
      | false => simp
      | true => simp [hadm he]
    by_cases hverify : Verifies Q s hp
    · have hv : Q.ed25519Verify hp.sig hp.toHelloBody (s.adoptPeer Q hp).peerStaticPubkey = true :=
        hverify
      cases hx : (Q.x25519 s.ephemeralPriKey hp.ephemeralKey).2 with
      | false =>
        refine Or.inr (Or.inr (Or.inl ⟨hadm, hverify, rfl, ?_⟩))
        simp [onHandShake, hguard, hv, hx, agree]
      | true =>
        refine Or.inr (Or.inr (Or.inr ⟨hadm, hverify, rfl, ?_⟩))
        by_cases ht : hp.type = 1 <;>
          simp [onHandShake, hguard, hv, hx, agree, reply, ht, sendHandshake, initChaCha20]
    · have hv : Q.ed25519Verify hp.sig hp.toHelloBody (s.adoptPeer Q hp).peerStaticPubkey = false :=
        Bool.eq_false_iff.mpr hverify
      refine Or.inr (Or.inl ⟨hadm, hverify, ?_⟩)
      simp [onHandShake, hguard, hv]
  · have hguard : (Q.isEmpty s.peerStaticPubkey && !contains hp.staticKey) = true := by
      simpa [Admits] using hadm
    exact Or.inl ⟨hadm, by simp [onHandShake, hguard]⟩

end ChatSession

namespace Conn

/-- The steps of a session: the event, the session after it and the effects of the handler. -/
inductive Step (contains : List UInt8 → Bool) (c : Conn QString Ctx) :
    SocketEvent → Conn QString Ctx → List (Effect (List UInt8) QString) → Prop
  | connectOk : c.connecting = .pending → c.isOpen = true →
      Step contains c .connectOk { c with connecting := .succeeded } []
  | connectDone : c.connecting = .succeeded → c.isOpen = true →
      Step contains c .connectDone
        { c with
          connecting := .idle
          writes := c.writes ++ [⟨some 1, (c.sess.helloPacket P 1).pack⟩]
          hellos := c.hellos ++ [c.sess.helloPacket P 1]
          calls := c.calls ++ [.onConnected c.sess.id] }
        [c.sess.sendHandshake P 1, .client (.onConnected c.sess.id)]
  | connectAborted : c.connecting = .succeeded → c.isOpen = false →
      Step contains c .connectDone
        { c with connecting := .idle, errors := c.errors ++ [.asyncConnect] } []
  | connectFail : c.connecting = .pending →
      Step contains c .connectFail { c with connecting := .idle, errors := c.errors ++ [.asyncConnect] } []
  | writeSome {i n : ℕ} {op : WriteOp} : c.writes[i]? = some op → c.isOpen = true → 0 < n →
      n ≤ op.data.length →
      Step contains c (.writeSome i n)
        { c with
          wire := c.wire ++ (op.data.take n).map (⟨op.hello.isSome, ·⟩)
          writes := c.writes.set i { op with data := op.data.drop n } } []
  | requestDone {i : ℕ} : c.writes[i]? = some ⟨some 1, []⟩ →
      Step contains c (.writeDone i)
        { c with writes := c.writes.eraseIdx i, reads := c.reads ++ [helloRead] }
        [receiveHandshake]
  | writeDone {i : ℕ} {op : WriteOp} : c.writes[i]? = some op → op.data = [] →
      op.hello ≠ some 1 →
      Step contains c (.writeDone i) { c with writes := c.writes.eraseIdx i } []
  | writeFail {i : ℕ} {op : WriteOp} : c.writes[i]? = some op → op.data ≠ [] →
      Step contains c (.writeFail i)
        { c with writes := c.writes.eraseIdx i, errors := c.errors ++ [.asyncWrite] } []
  | readSome {i : ℕ} {bytes : List UInt8} {op : ReadOp} : c.reads[i]? = some op →
      c.isOpen = true → bytes ≠ [] → op.got.length + bytes.length ≤ op.need →
      Step contains c (.readSome i bytes)
        { c with reads := c.reads.set i { op with got := op.got ++ bytes } } []
  | readFail {i : ℕ} {op : ReadOp} : c.reads[i]? = some op → op.got.length < op.need →
      Step contains c (.readFail i)
        { c with reads := c.reads.eraseIdx i, errors := c.errors ++ [.asyncRead] } []
  | unlisted {i : ℕ} {op : ReadOp} : c.reads[i]? = some op → op.got.length = op.need →
      op.handler = .onHandShake → ¬c.sess.Admits P contains op.hello →
      Step contains c (.readDone i)
        { c with
          reads := c.reads.eraseIdx i
          calls := c.calls ++ [.onClose c.sess.id]
          isOpen := false } c.sess.close
  | badSignature {i : ℕ} {op : ReadOp} : c.reads[i]? = some op → op.got.length = op.need →
      op.handler = .onHandShake → c.sess.Admits P contains op.hello →
      ¬c.sess.Verifies P op.hello →
      Step contains c (.readDone i)
        { c with
          sess := c.sess.adoptPeer P op.hello
          reads := c.reads.eraseIdx i
          calls := c.calls ++ [.onClose (c.sess.adoptPeer P op.hello).id]
          isOpen := false } (c.sess.adoptPeer P op.hello).close
  | noSharedKey {i : ℕ} {op : ReadOp} : c.reads[i]? = some op → op.got.length = op.need →
      op.handler = .onHandShake → c.sess.Admits P contains op.hello →
      c.sess.Verifies P op.hello →
      (P.x25519 c.sess.ephemeralPriKey op.hello.ephemeralKey).2 = false →
      Step contains c (.readDone i)
        { c with sess := c.sess.agree P op.hello, reads := c.reads.eraseIdx i } []
  | finished {i : ℕ} {op : ReadOp} : c.reads[i]? = some op → op.got.length = op.need →
      op.handler = .onHandShake → c.sess.Admits P contains op.hello →
      c.sess.Verifies P op.hello →
      (P.x25519 c.sess.ephemeralPriKey op.hello.ephemeralKey).2 = true →
      Step contains c (.readDone i)
        { c with
          sess := (c.sess.agree P op.hello).initChaCha20 P
          reads := c.reads.eraseIdx i ++ [headRead]
          writes := c.writes ++ (c.sess.reply P op.hello).map (fun hp => ⟨some hp.type, hp.pack⟩)
          hellos := c.hellos ++ c.sess.reply P op.hello
          calls := c.calls ++ [.onHandShakeFinished (c.sess.adoptPeer P op.hello).id] }
        ((c.sess.reply P op.hello).map Effect.asyncWriteHello ++
          [.client (.onHandShakeFinished (c.sess.adoptPeer P op.hello).id), startRead])
  | headDone {i : ℕ} {op : ReadOp} : c.reads[i]? = some op → op.got.length = op.need →
      op.handler = .handleReadMsgHead →
      Step contains c (.readDone i)
        { c with reads := c.reads.eraseIdx i ++ [bodyRead op.buffer] }
        (handleReadMsgHead false op.buffer)
  | bodyDone {i : ℕ} {op : ReadOp} : c.reads[i]? = some op → op.got.length = op.need →
      op.handler = .handleReadMsg → getU16 op.buffer 2 = 1 →
      Step contains c (.readDone i)
        { c with
          sess := (c.sess.handleReadMsg P false op.buffer).1
          handled := c.handled ++ [(c.sess.handleReadMsg P false op.buffer).2.1]
          reads := c.reads.eraseIdx i ++ [headRead]
          calls := c.calls ++ [.onTextMsg c.sess.id (P.fromUtf8
            (cString ((c.sess.handleReadMsg P false op.buffer).2.1.drop 4)))] }
        (c.sess.handleReadMsg P false op.buffer).2.2
  | bodySkipped {i : ℕ} {op : ReadOp} : c.reads[i]? = some op → op.got.length = op.need →
      op.handler = .handleReadMsg → getU16 op.buffer 2 ≠ 1 →
      Step contains c (.readDone i)
        { c with handled := c.handled ++ [op.buffer], reads := c.reads.eraseIdx i ++ [headRead] }
        [startRead]
  | startWrite {j : ℕ} {data : List UInt8} : c.waiting[j]? = some data →
      Step contains c (.startWrite j)
        { c with waiting := c.waiting.eraseIdx j, writes := c.writes ++ [⟨none, data⟩] }
        [.asyncWriteMsg data]

lemma performAll_append (c : Conn QString Ctx) (effs effs' : List (Effect (List UInt8) QString)) :
    c.performAll (effs ++ effs') = (c.performAll effs).performAll effs' :=
  List.foldl_append

lemma performAll_hellos (c : Conn QString Ctx) (hps : List (HelloPacket (List UInt8))) :
    c.performAll (hps.map Effect.asyncWriteHello) =
      { c with
        writes := c.writes ++ hps.map (fun hp => ⟨some hp.type, hp.pack⟩)
        hellos := c.hellos ++ hps } := by
  induction hps generalizing c with
  | nil => simp [performAll]
  | cons hp hps ih =>
    have hcons : c.performAll ((hp :: hps).map Effect.asyncWriteHello) =
        (c.perform (.asyncWriteHello hp)).performAll (hps.map Effect.asyncWriteHello) := rfl
    rw [hcons, ih]
    simp [perform]

lemma readHandler_step {contains : List UInt8 → Bool} {c c' : Conn QString Ctx} {i : ℕ}
    {op : ReadOp} {effs : List (Effect (List UInt8) QString)} (hop : c.reads[i]? = some op)
    (hfull : op.got.length = op.need)
    (h : readHandler P contains { c with reads := c.reads.eraseIdx i } false op = (c', effs)) :
    Step P contains c (.readDone i) c' effs := by
  unfold readHandler at h
  cases hh : op.handler with
  | onHandShake =>
    simp only [hh] at h
    rcases ChatSession.onHandShake_cases P contains c.sess op.hello with
      ⟨ha, hr⟩ | ⟨ha, hv, hr⟩ | ⟨ha, hv, hx, hr⟩ | ⟨ha, hv, hx, hr⟩
    · rw [show HelloPacket.ofBytes op.buffer = op.hello from rfl, hr] at h
      obtain ⟨rfl, rfl⟩ := Prod.mk.inj h
      exact Step.unlisted hop hfull hh ha
    · rw [show HelloPacket.ofBytes op.buffer = op.hello from rfl, hr] at h
      obtain ⟨rfl, rfl⟩ := Prod.mk.inj h
      exact Step.badSignature hop hfull hh ha hv
    · rw [show HelloPacket.ofBytes op.buffer = op.hello from rfl, hr] at h
      obtain ⟨rfl, rfl⟩ := Prod.mk.inj h
      exact Step.noSharedKey hop hfull hh ha hv hx
    · rw [show HelloPacket.ofBytes op.buffer = op.hello from rfl, hr] at h
      simp only [performAll_append, performAll_hellos] at h
      obtain ⟨rfl, rfl⟩ := Prod.mk.inj h
      exact Step.finished hop hfull hh ha hv hx
  | handleReadMsgHead =>
    simp only [hh] at h
    obtain ⟨rfl, rfl⟩ := Prod.mk.inj h
    exact Step.headDone hop hfull hh
  | handleReadMsg =>
    simp only [hh] at h
    by_cases hp : getU16 op.buffer 2 = 1
    · have heffs := ChatSession.handleReadMsg_effects P c.sess hp
      have hstep : Step P contains c (.readDone i) _ _ := Step.bodyDone hop hfull hh hp
      obtain ⟨rfl, rfl⟩ := Prod.mk.inj h
      rw [heffs] at hstep ⊢
      exact hstep
    · have hr : c.sess.handleReadMsg P false op.buffer = (c.sess, op.buffer, [startRead]) := by
        simp [ChatSession.handleReadMsg, hp]
      simp only [hr] at h
      obtain ⟨rfl, rfl⟩ := Prod.mk.inj h
      exact Step.bodySkipped hop hfull hh hp

lemma readHandler_error {contains : List UInt8 → Bool} (c : Conn QString Ctx) (op : ReadOp) :
    readHandler P contains c true op = (c, []) := by
  unfold readHandler
  cases op.handler <;>
    simp [ChatSession.onHandShake, handleReadMsgHead, ChatSession.handleReadMsg, performAll]

/-- `Step` covers `react`. -/
theorem react_step {contains : List UInt8 → Bool} {c c' : Conn QString Ctx} {ev : SocketEvent}
    {effs : List (Effect (List UInt8) QString)} (h : c.react P contains ev = some (c', effs)) :
    Step P contains c ev c' effs := by
  cases ev with
  | connectOk =>
    simp only [react] at h
    split at h
    · rename_i hc
      obtain ⟨rfl, rfl⟩ := Prod.mk.inj (Option.some.inj h)
      exact Step.connectOk hc.1 hc.2
    · cases h
  | connectDone =>
    simp only [react] at h
    split at h
    · rename_i hc
      split at h
      · rename_i hopen
        obtain ⟨rfl, rfl⟩ := Prod.mk.inj (Option.some.inj h)
        exact Step.connectDone hc hopen
      · rename_i hopen
        obtain ⟨rfl, rfl⟩ := Prod.mk.inj (Option.some.inj h)
        exact Step.connectAborted hc (Bool.eq_false_iff.mpr hopen)
    · cases h
  | connectFail =>
    simp only [react] at h
    split at h
    · rename_i hc
      obtain ⟨rfl, rfl⟩ := Prod.mk.inj (Option.some.inj h)
      exact Step.connectFail hc
    · cases h
  | writeSome i n =>
    obtain ⟨op, hop, h⟩ := Option.bind_eq_some_iff.mp h
    split at h
    · rename_i hc
      obtain ⟨rfl, rfl⟩ := Prod.mk.inj (Option.some.inj h)
      exact Step.writeSome hop hc.1 hc.2.1 hc.2.2
    · cases h
  | writeDone i =>
    obtain ⟨op, hop, h⟩ := Option.bind_eq_some_iff.mp h
    split at h
    · rename_i hd
      by_cases hr : op.hello = some 1
      · obtain ⟨hello, data⟩ := op
        obtain rfl : hello = some 1 := hr
        obtain rfl : data = [] := hd
        obtain ⟨rfl, rfl⟩ := Prod.mk.inj (Option.some.inj h)
        exact Step.requestDone hop
      · have hw : writeHandler { c with writes := c.writes.eraseIdx i } false op =
            ({ c with writes := c.writes.eraseIdx i }, []) := by
          unfold writeHandler
          cases hh : op.hello with
          | none => rfl
          | some t =>
            have ht : t ≠ 1 := fun ht => hr (by rw [hh, ht])
            simp [ChatSession.sendHandshakeDone, ht, performAll]
        rw [hw] at h
        obtain ⟨rfl, rfl⟩ := Prod.mk.inj (Option.some.inj h)
        exact Step.writeDone hop hd hr
    · cases h
  | writeFail i =>
    obtain ⟨op, hop, h⟩ := Option.bind_eq_some_iff.mp h
    split at h
    · rename_i hd
      have hw : writeHandler
          { c with writes := c.writes.eraseIdx i, errors := c.errors ++ [.asyncWrite] } true op =
          ({ c with writes := c.writes.eraseIdx i, errors := c.errors ++ [.asyncWrite] }, []) := by
        unfold writeHandler
        cases op.hello <;> rfl
      rw [hw] at h
      obtain ⟨rfl, rfl⟩ := Prod.mk.inj (Option.some.inj h)
      exact Step.writeFail hop hd
    · cases h
  | readSome i bytes =>
    obtain ⟨op, hop, h⟩ := Option.bind_eq_some_iff.mp h
    split at h
    · rename_i hc
      obtain ⟨rfl, rfl⟩ := Prod.mk.inj (Option.some.inj h)
      exact Step.readSome hop hc.1 hc.2.1 hc.2.2
    · cases h
  | readDone i =>
    obtain ⟨op, hop, h⟩ := Option.bind_eq_some_iff.mp h
    split at h
    · rename_i hf
      exact readHandler_step P hop hf (Option.some.inj h)
    · cases h
  | readFail i =>
    obtain ⟨op, hop, h⟩ := Option.bind_eq_some_iff.mp h
    split at h
    · rename_i hf
      rw [readHandler_error] at h
      obtain ⟨rfl, rfl⟩ := Prod.mk.inj (Option.some.inj h)
      exact Step.readFail hop hf
    · cases h
  | startWrite j =>
    obtain ⟨data, hd, h⟩ := Option.bind_eq_some_iff.mp h
    obtain ⟨rfl, rfl⟩ := Prod.mk.inj (Option.some.inj h)
    exact Step.startWrite hd

end Conn

end Enchat
