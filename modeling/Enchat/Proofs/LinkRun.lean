import Enchat.Proofs.Receiver
import Enchat.Proofs.KeystreamReuse

/-!
# What a side sends and what the other side reads

In every run of a link the encrypt context of a side has moved over the payloads sent, and the
decrypt context of the other side over the frames that have arrived, whoever made them.
-/

namespace Enchat
open Buffer Transition

variable {QString Ctx : Type} {P : Primitives (List UInt8) QString Ctx} {C : StreamCipher Ctx}

/-- The frame that carries an encrypted payload. -/
def msgFrame (cipher : List UInt8) : List UInt8 :=
  putU16 (UInt16.ofNat cipher.length) ++ putU16 1 ++ cipher

lemma drop_msgFrame (cipher : List UInt8) : (msgFrame cipher).drop 4 = cipher := rfl

lemma length_msgFrame (cipher : List UInt8) : (msgFrame cipher).length = cipher.length + 4 := by
  simp only [msgFrame, List.length_append, length_putU16]
  omega

lemma protocol_msgFrame (cipher : List UInt8) : getU16 (msgFrame cipher) 2 = 1 := rfl

lemma isFrame_msgFrame {cipher : List UInt8} (h : cipher.length < 65536) :
    msgFraming.IsFrame (msgFrame cipher) := by
  change (msgFrame cipher).length = getU16 (msgFrame cipher) 0 + 4
  rw [length_msgFrame, msgFrame, List.append_assoc, getU16_putU16, UInt16.toNat_ofNat_of_lt' h]

def msgPayload (msg : List UInt8) : List UInt8 := (msg.drop 4).take (getU16 msg 0)

lemma drop_frameBuffer (payload : List UInt8) :
    (frameBuffer (msgFrame payload)).drop 4 =
      payload ++ (List.replicate 4096 0).drop (payload.length + 4) := by
  rw [frameBuffer_eq, length_msgFrame]
  rfl

lemma msgPayload_frameBuffer {payload : List UInt8} (h : payload.length < 65536) :
    msgPayload (frameBuffer (msgFrame payload)) = payload := by
  have hlen := length_msgFrame payload
  have hsize : getU16 (frameBuffer (msgFrame payload)) 0 = payload.length := by
    rw [getU16_frameBuffer (by omega), msgFrame, List.append_assoc, getU16_putU16,
      UInt16.toNat_ofNat_of_lt' h]
  rw [msgPayload, hsize, drop_frameBuffer, List.take_left]

/-- A payload of at most 4091 bytes leaves room for a NUL. -/
lemma zeros_behind {payload : List UInt8} (h : payload.length ≤ 4091) :
    (List.replicate 4096 (0 : UInt8)).drop (payload.length + 4) =
      0 :: List.replicate (4091 - payload.length) 0 := by
  rw [List.drop_replicate, ← List.replicate_succ]
  congr 1
  omega

/-- A payload that leaves room for a NUL behind it is handed over up to its first NUL. -/
lemma msgText_frameBuffer {payload : List UInt8} (h : payload.length ≤ 4091) :
    msgText P (frameBuffer (msgFrame payload)) = some (P.fromUtf8 (cString payload)) := by
  have hlen := length_msgFrame payload
  have hprotocol : getU16 (frameBuffer (msgFrame payload)) 2 = 1 := by
    rw [getU16_frameBuffer (by omega), protocol_msgFrame]
  rw [msgText, if_pos hprotocol, drop_frameBuffer, zeros_behind h, cString_append_zero]

lemma receiveFrame_msgFrame (d : Ctx) (cipher : List UInt8) :
    receiveFrame C d (msgFrame cipher) =
      ((C.update d cipher).1, frameBuffer (msgFrame (C.update d cipher).2)) := by
  have hlen := C.length_update d cipher
  rw [receiveFrame, if_pos (protocol_msgFrame cipher), drop_msgFrame, frameBuffer_eq, frameBuffer_eq,
    length_msgFrame, length_msgFrame, hlen]
  congr 1
  rw [msgFrame, msgFrame, hlen, List.append_assoc _ cipher]
  rw [store_append (by simp), hlen, List.drop_left]

lemma receiveFrames_msgFrame (d : Ctx) (ciphers : List (List UInt8)) :
    receiveFrames C d (ciphers.map msgFrame) =
      (C.after d ciphers, (C.outputs d ciphers).map (frameBuffer ∘ msgFrame)) := by
  induction ciphers generalizing d with
  | nil => rfl
  | cons cipher ciphers ih =>
    rw [List.map_cons, receiveFrames, receiveFrame_msgFrame, ih]
    rfl

lemma Conn.Receiving.of_prefix {ctx : Ctx} {c : Conn QString Ctx} {stream part : List UInt8}
    {frames ciphers : List (List UInt8)} (h : c.Receiving P C ctx stream frames part)
    (hframes : frames <+: ciphers.map msgFrame) :
    c.handled.length ≤ ciphers.length ∧
      c.handled = ((C.outputs ctx ciphers).take c.handled.length).map (frameBuffer ∘ msgFrame) ∧
      c.sess.chachaDctx = C.after ctx (ciphers.take c.handled.length) := by
  have hframes' : frames = (ciphers.take frames.length).map msgFrame := by
    rw [List.map_take]
    exact List.prefix_iff_eq_take.mp hframes
  have hreceive := receiveFrames_msgFrame (C := C) ctx (ciphers.take frames.length)
  rw [← hframes', C.outputs_take] at hreceive
  have hhandled := h.handled
  have hcontext := h.context
  rw [hreceive] at hhandled hcontext
  have hle : frames.length ≤ ciphers.length := by
    have hlen := hframes.length_le
    rwa [List.length_map] at hlen
  have hlength : c.handled.length = frames.length := by
    rw [hhandled, List.length_map, List.length_take, C.length_outputs]
    omega
  rw [hlength]
  exact ⟨hle, hhandled, hcontext⟩

/-- `writeMsg` stores the size and the encrypted payload around the protocol field. -/
lemma encryptMsg_frame (hC : P.mbedtlsChacha20Update = C.update)
    (s : ChatSession (List UInt8) QString Ctx) {msg : List UInt8} {size : UInt16}
    (hlen : size.toNat + 4 ≤ msg.length) :
    s.encryptMsg P msg size =
      ({ s with chachaEctx := (C.update s.chachaEctx ((msg.drop 4).take size.toNat)).1 },
        putU16 size ++ (msg.drop 2).take 2 ++
          (C.update s.chachaEctx ((msg.drop 4).take size.toNat)).2) := by
  have hcipher : (C.update s.chachaEctx ((msg.drop 4).take size.toNat)).2.length = size.toNat := by
    rw [C.length_update, List.length_take, List.length_drop]
    omega
  rw [ChatSession.encryptMsg, hC]
  generalize C.update s.chachaEctx ((msg.drop 4).take size.toNat) = u at hcipher
  have hmsg : msg = msg.take 2 ++ (msg.drop 2).take 2 ++ msg.drop 4 := by
    rw [List.append_assoc, ← List.drop_drop (i := 2) (j := 2), List.take_append_drop,
      List.take_append_drop]
  have hfirst : (msg.take 2).length = 2 := by
    rw [List.length_take]
    omega
  have hsecond : ((msg.drop 2).take 2).length = 2 := by
    rw [List.length_take, List.length_drop]
    omega
  generalize (msg.drop 2).take 2 = protocol at hmsg hsecond
  have hstore : store msg 4 u.2 =
      msg.take 2 ++ protocol ++ u.2 ++ (msg.drop 4).drop u.2.length := by
    conv_lhs => rw [hmsg]
    exact store_append (by simp [hfirst, hsecond]) _ _
  have hwhole : store (store msg 4 u.2) 0 (putU16 size) =
      putU16 size ++ protocol ++ u.2 ++ (msg.drop 4).drop u.2.length := by
    rw [store_zero, length_putU16, hstore]
    simp only [List.append_assoc]
    rw [List.drop_left' hfirst]
  have hlength : (putU16 size ++ protocol ++ u.2).length = size.toNat + 4 := by
    simp only [List.length_append, length_putU16, hsecond, hcipher]
    omega
  simp only [hwhole, List.take_left' hlength]

/-- `writeMsg` on a buffer of protocol 1 sends the frame of the encrypted payload. -/
lemma encryptMsg_eq (hC : P.mbedtlsChacha20Update = C.update)
    (s : ChatSession (List UInt8) QString Ctx) {msg : List UInt8} {size : UInt16}
    (hprotocol : getU16 msg 2 = 1) (hlen : size.toNat + 4 ≤ msg.length) :
    s.encryptMsg P msg size =
      ({ s with chachaEctx := (C.update s.chachaEctx ((msg.drop 4).take size.toNat)).1 },
        msgFrame (C.update s.chachaEctx ((msg.drop 4).take size.toNat)).2) := by
  have hone : getU16 msg 2 = (1 : UInt16).toNat := hprotocol
  rw [encryptMsg_frame hC s hlen, take_drop_of_getU16 hone (by omega)]
  rw [msgFrame, C.length_update, List.length_take, List.length_drop,
    Nat.min_eq_left (show size.toNat ≤ msg.length - 4 by omega), UInt16.ofNat_toNat]

/-- What the two stores of `sendTextMsg` make of a buffer. -/
lemma store_protocol {heap : List UInt8} (hlen : 4 ≤ heap.length) (u8text : List UInt8) :
    store (store heap 4 u8text) 2 (putU16 1) =
      heap.take 2 ++ putU16 1 ++ (u8text ++ heap.drop (4 + u8text.length)) := by
  have htwo : (heap.take 2).length = 2 := by
    rw [List.length_take]
    omega
  have hfour : heap.take 4 = heap.take 2 ++ (heap.drop 2).take 2 :=
    List.take_add (i := 2) (j := 2)
  have hbody : store heap 4 u8text =
      heap.take 2 ++ ((heap.drop 2).take 2 ++ (u8text ++ heap.drop (4 + u8text.length))) := by
    rw [store, hfour]
    simp only [List.append_assoc]
  rw [hbody, store_append htwo, length_putU16, List.drop_left']
  rw [List.length_take, List.length_drop]
  omega

lemma textMsg_eq {text : QString} (h : (P.toUtf8 text).length ≤ 4092) :
    (textMsg P text).1 = [0, 0] ++ putU16 1 ++
      (P.toUtf8 text ++ (List.replicate 4092 0).drop (P.toUtf8 text).length) ∧
    (textMsg P text).2.toNat = (P.toUtf8 text).length := by
  constructor
  · change store (store (List.replicate 4096 0) 4 (P.toUtf8 text)) 2 (putU16 1) = _
    rw [store_protocol (by rw [List.length_replicate]; omega), ← List.drop_drop]
    rfl
  · exact UInt16.toNat_ofNat_of_lt' (by
      change (P.toUtf8 text).length < 65536
      omega)

lemma textCall_spec (side : Side) {text : QString} (h : (P.toUtf8 text).length ≤ 4092) :
    getU16 (textCall P side text).msg 2 = 1 ∧ (textCall P side text).size.toNat ≤ 4092 ∧
      (textCall P side text).size.toNat + 4 ≤ (textCall P side text).msg.length ∧
      (textCall P side text).payload = P.toUtf8 text := by
  obtain ⟨hmsg, hsize⟩ := textMsg_eq h
  refine ⟨?_, ?_, ?_, ?_⟩
  · rw [textCall, hmsg]
    rfl
  · rw [textCall, hsize]
    exact h
  · rw [textCall, hsize, hmsg]
    simp only [List.length_append, List.length_drop, List.length_replicate, length_putU16,
      List.length_cons, List.length_nil]
    omega
  · rw [WriteCall.payload, textCall, hsize, hmsg]
    exact List.take_left

namespace Link

inductive Step (P : Primitives (List UInt8) QString Ctx) (l : Link QString Ctx) :
    LinkEvent QString → Link QString Ctx → Prop
  | writeMsg {call : WriteCall} : getU16 call.msg 2 = 1 → call.size.toNat ≤ 4092 →
      call.size.toNat + 4 ≤ call.msg.length →
      Step P l (.writeMsg call) (l.write P call)
  | sendTextMsg {side : Side} {text : QString} : (P.toUtf8 text).length ≤ 4092 →
      Step P l (.sendTextMsg side text)
        { l.write P (textCall P side text) with
          texts := Function.update l.texts side (l.texts side ++ [text]) }
  | socket {side : Side} {ev : SocketEvent} {c : Conn QString Ctx}
      {effs : List (Effect (List UInt8) QString)} :
      Conn.Step P (fun _ => false) (l.conn side) ev c effs →
      Step P l (.socket side ev)
        { l with
          conn := Function.update l.conn side c
          received := Function.update l.received side (l.received side ++ arrived ev) }

theorem step_step {l l' : Link QString Ctx} {ev : LinkEvent QString}
    (h : StepOf (Link.step P) l ev l') : Step P l ev l' := by
  cases ev with
  | writeMsg call =>
    simp only [StepOf, step] at h
    split at h
    · rename_i hc
      obtain rfl := Option.some.inj h
      exact Step.writeMsg hc.1 hc.2.1 hc.2.2
    · cases h
  | sendTextMsg side text =>
    simp only [StepOf, step] at h
    split at h
    · rename_i hc
      obtain rfl := Option.some.inj h
      exact Step.sendTextMsg hc
    · cases h
  | socket side ev =>
    obtain ⟨⟨c, effs⟩, hr, rfl⟩ := Option.map_eq_some_iff.mp h
    exact Step.socket (Conn.react_step P hr)

/-- When the sides send texts only, the payloads are their UTF-8 forms. -/
lemma sent_eq_texts {V : QString → Prop} {G : Link QString Ctx → LinkEvent QString → Prop}
    (hmsg : ∀ l call, ¬G l (.writeMsg call))
    (htext : ∀ l side text, G l (.sendTextMsg side text) → V text)
    {a b : ChatSession (List UInt8) QString Ctx} {es : List (LinkEvent QString)}
    {l : Link QString Ctx} (h : Run (Guarded (StepOf (Link.step P)) G) (Link.start P a b) es l)
    (side : Side) :
    l.sent side = (l.texts side).map P.toUtf8 ∧ ∀ text ∈ l.texts side, V text := by
  let I (l : Link QString Ctx) : Prop := ∀ side,
    l.sent side = (l.texts side).map P.toUtf8 ∧ ∀ text ∈ l.texts side, V text
  have hstart : I (Link.start P a b) :=
    fun side => ⟨rfl, fun text hmem => absurd hmem List.not_mem_nil⟩
  refine h.invariant (I := I) hstart ?_ side
  rintro l ev l' ih ⟨hs, hguard⟩ side
  cases step_step hs with
  | writeMsg _ _ _ => exact absurd hguard (hmsg _ _)
  | @sendTextMsg side' text hlen =>
    obtain ⟨hsent, hvalid⟩ := ih side
    by_cases heq : side = side'
    · subst heq
      obtain ⟨_, _, _, hpayload⟩ := textCall_spec side hlen
      have hside : (textCall P side text).side = side := rfl
      simp only [write, hside, Function.update_self, hpayload, hsent, List.map_append]
      refine ⟨rfl, ?_⟩
      intro text' hmem
      rcases List.mem_append.mp hmem with hold | hnew
      · exact hvalid text' hold
      · rw [List.mem_singleton.mp hnew]
        exact htext _ _ _ hguard
    · have hside : side ≠ (textCall P side' text).side := heq
      simp only [write, Function.update_of_ne heq, Function.update_of_ne hside]
      exact ⟨hsent, hvalid⟩
  | socket _ => exact ih side

/-- What an event does to a link: one side writes a frame that meets `W`, or the socket of one side
makes a step. -/
inductive Moves (P : Primitives (List UInt8) QString Ctx) (W : WriteCall → Prop)
    (l : Link QString Ctx) (ev : LinkEvent QString) : Link QString Ctx → Prop
  | write {call : WriteCall} {texts : Side → List QString} : W call →
      (l.Reliable ev → l.Transferred call.side) →
      Moves P W l ev { l.write P call with texts := texts }
  | socket {side : Side} {sev : SocketEvent} {c : Conn QString Ctx}
      {effs : List (Effect (List UInt8) QString)} : ev = .socket side sev →
      Conn.Step P (fun _ => false) (l.conn side) sev c effs →
      Moves P W l ev
        { l with
          conn := Function.update l.conn side c
          received := Function.update l.received side (l.received side ++ arrived sev) }

/-- A frame of protocol 1 whose buffer holds it. -/
def Fits (call : WriteCall) : Prop :=
  getU16 call.msg 2 = 1 ∧ call.size.toNat ≤ 4092 ∧ call.size.toNat + 4 ≤ call.msg.length

lemma Step.moves {l l' : Link QString Ctx} {ev : LinkEvent QString} (h : Step P l ev l') :
    Moves P Fits l ev l' := by
  cases h with
  | writeMsg hprotocol hsize hlen => exact Moves.write ⟨hprotocol, hsize, hlen⟩ id
  | @sendTextMsg side text hlen =>
    obtain ⟨hprotocol, hsize, hmsg, _⟩ := textCall_spec side hlen
    have hfits : Fits (textCall P side text) := ⟨hprotocol, hsize, hmsg⟩
    exact Moves.write hfits id
  | socket hs => exact Moves.socket rfl hs

/-- A property of one side that its own writes and socket steps keep holds of both sides. -/
lemma Moves.sides {W : WriteCall → Prop}
    {Q : Conn QString Ctx → List (List UInt8) → List Ctx → List UInt8 → Prop}
    {l l' : Link QString Ctx} {ev : LinkEvent QString} (hs : Moves P W l ev l')
    (h : ∀ side, Q (l.conn side) (l.sent side) (l.positions side) (l.received side))
    (hwrite : ∀ call : WriteCall, W call → (l.Reliable ev → l.Transferred call.side) →
      Q ((l.conn call.side).writeMsg P call.msg call.size) (l.sent call.side ++ [call.payload])
        (l.positions call.side ++
          [((l.conn call.side).writeMsg P call.msg call.size).sess.chachaEctx])
        (l.received call.side))
    (hsocket : ∀ side sev c effs, ev = .socket side sev →
      Conn.Step P (fun _ => false) (l.conn side) sev c effs →
      Q c (l.sent side) (l.positions side) (l.received side ++ arrived sev)) :
    ∀ side, Q (l'.conn side) (l'.sent side) (l'.positions side) (l'.received side) := by
  intro side
  cases hs with
  | @write call texts hW hidle =>
    by_cases heq : side = call.side
    · subst heq
      simp only [Link.write, Function.update_self]
      exact hwrite call hW hidle
    · simp only [Link.write, Function.update_of_ne heq]
      exact h side
  | @socket side' sev c effs hev hconn =>
    by_cases heq : side = side'
    · subst heq
      simp only [Function.update_self]
      exact hsocket side sev c effs hev hconn
    · simp only [Function.update_of_ne heq]
      exact h side

end Link

namespace Conn

/-- What a finished session never changes when its socket makes a step. -/
lemma Talking.step_frame {contains : List UInt8 → Bool} {c c' : Conn QString Ctx}
    {ev : SocketEvent} {effs : List (Effect (List UInt8) QString)} (h : c.Talking)
    (hs : Step P contains c ev c' effs) :
    c'.sess.chachaEctx = c.sess.chachaEctx ∧ c'.encrypted = c.encrypted ∧ c'.hellos = c.hellos ∧
      c'.isOpen = c.isOpen := by
  have hidle : c.connecting ≠ .succeeded := by simp [h.connecting]
  cases hs with
  | connectDone hc _ => exact absurd hc hidle
  | unlisted hop _ hh _ => exact absurd hh (h.reads _ (List.mem_of_getElem? hop))
  | badSignature hop _ hh _ _ => exact absurd hh (h.reads _ (List.mem_of_getElem? hop))
  | noSharedKey hop _ hh _ _ _ => exact absurd hh (h.reads _ (List.mem_of_getElem? hop))
  | finished hop _ hh _ _ _ => exact absurd hh (h.reads _ (List.mem_of_getElem? hop))
  | @bodyDone _ op _ _ _ _ =>
    have hectx := congrArg ChatSession.chachaEctx
      (ChatSession.handleReadMsg_eq P c.sess false op.buffer)
    exact ⟨hectx, rfl, rfl, rfl⟩
  | _ => exact ⟨rfl, rfl, rfl, rfl⟩

structure Sending (C : StreamCipher Ctx) (e : Ctx) (c : Conn QString Ctx)
    (sent : List (List UInt8)) : Prop where
  context : c.sess.chachaEctx = C.after e sent
  encrypted : c.encrypted = (C.outputs e sent).map msgFrame
  short : ∀ payload ∈ sent, payload.length ≤ 4092

lemma Sending.writeMsg (hC : P.mbedtlsChacha20Update = C.update) {e : Ctx} {c : Conn QString Ctx}
    {sent : List (List UInt8)} (h : c.Sending C e sent) {call : WriteCall}
    (hprotocol : getU16 call.msg 2 = 1) (hsize : call.size.toNat ≤ 4092)
    (hlen : call.size.toNat + 4 ≤ call.msg.length) :
    (c.writeMsg P call.msg call.size).Sending C e (sent ++ [call.payload]) := by
  have henc := encryptMsg_eq hC c.sess hprotocol hlen
  refine ⟨?_, ?_, ?_⟩
  · rw [C.after_snoc, ← h.context]
    exact congrArg (fun r => r.1.chachaEctx) henc
  · rw [C.outputs_snoc, List.map_append, ← h.encrypted, ← h.context]
    exact congrArg (fun r => c.encrypted ++ [r.2]) henc
  · intro payload hmem
    rcases List.mem_append.mp hmem with hold | hnew
    · exact h.short payload hold
    · rw [List.mem_singleton.mp hnew, WriteCall.payload, List.length_take]
      omega

lemma Sending.isFrame {e : Ctx} {c : Conn QString Ctx} {sent : List (List UInt8)}
    (h : c.Sending C e sent) : ∀ f ∈ c.encrypted, msgFraming.IsFrame f := by
  intro f hmem
  rw [h.encrypted] at hmem
  obtain ⟨cipher, hcipher, rfl⟩ := List.mem_map.mp hmem
  obtain ⟨payload, hpayload, hlength⟩ := C.exists_of_mem_outputs hcipher
  have hshort := h.short payload hpayload
  exact isFrame_msgFrame (by omega)

end Conn

namespace Link

/-- What holds in every state of a link, whoever feeds the reads. -/
structure Agrees (P : Primitives (List UInt8) QString Ctx) (C : StreamCipher Ctx) (ctx : Ctx)
    (l : Link QString Ctx) : Prop where
  talking : ∀ side, (l.conn side).Talking
  sending : ∀ side, (l.conn side).Sending C ctx (l.sent side)
  positions : ∀ side, l.positions side = C.contexts ctx (l.sent side)
  receiving : ∀ side, ∃ frames part,
    (l.conn side).Receiving P C ctx (l.received side) frames part

/-- What a side has sent may be described by any `S` that its own writes keep and that depends on
the encrypt context and the frames only. -/
lemma Moves.keeps (hC : P.mbedtlsChacha20Update = C.update) {ctx : Ctx}
    {S : Conn QString Ctx → List (List UInt8) → Prop} {W : WriteCall → Prop}
    (hcontext : ∀ c sent, S c sent → c.sess.chachaEctx = C.after ctx sent)
    (hwrite : ∀ c sent call, S c sent → W call →
      S (c.writeMsg P call.msg call.size) (sent ++ [call.payload]))
    (hsame : ∀ c c' sent, S c sent → c'.sess.chachaEctx = c.sess.chachaEctx →
      c'.encrypted = c.encrypted → S c' sent)
    {l l' : Link QString Ctx} {ev : LinkEvent QString} (hs : Moves P W l ev l')
    (h : ∀ side, (l.conn side).Talking ∧ S (l.conn side) (l.sent side) ∧
      l.positions side = C.contexts ctx (l.sent side) ∧
      ∃ frames part, (l.conn side).Receiving P C ctx (l.received side) frames part) :
    ∀ side, (l'.conn side).Talking ∧ S (l'.conn side) (l'.sent side) ∧
      l'.positions side = C.contexts ctx (l'.sent side) ∧
      ∃ frames part, (l'.conn side).Receiving P C ctx (l'.received side) frames part := by
  refine hs.sides (Q := fun c sent positions received => c.Talking ∧ S c sent ∧
    positions = C.contexts ctx sent ∧ ∃ frames part, c.Receiving P C ctx received frames part) h ?_ ?_
  · intro call hW _
    obtain ⟨htalking, hsend, hpositions, frames, part, hr⟩ := h call.side
    have hsend' := hwrite _ _ call hsend hW
    refine ⟨htalking.writeMsg _ _, hsend', ?_, frames, part, hr.frame rfl rfl rfl rfl id⟩
    rw [hpositions, C.contexts_snoc, ← C.after_snoc, ← hcontext _ _ hsend']
  · intro side sev c effs _ hconn
    obtain ⟨htalking, hsend, hpositions, frames, part, hr⟩ := h side
    obtain ⟨hectx, hencrypted, _, _⟩ := htalking.step_frame hconn
    obtain ⟨frames', part', hr', _⟩ := hr.step hC htalking.opening hconn
    exact ⟨htalking.step hconn, hsame _ _ _ hsend hectx hencrypted, hpositions, frames', part', hr'⟩

lemma Agrees.step (hC : P.mbedtlsChacha20Update = C.update) {ctx : Ctx} {l l' : Link QString Ctx}
    {ev : LinkEvent QString} (h : l.Agrees P C ctx) (hs : Step P l ev l') : l'.Agrees P C ctx := by
  have hsides := Moves.keeps hC (S := fun c sent => c.Sending C ctx sent) ?_ ?_ ?_ hs.moves
    (fun side => ⟨h.talking side, h.sending side, h.positions side, h.receiving side⟩)
  · exact ⟨fun side => (hsides side).1, fun side => (hsides side).2.1,
      fun side => (hsides side).2.2.1, fun side => (hsides side).2.2.2⟩
  · intro c sent hsend
    exact hsend.context
  · rintro c sent call hsend ⟨hprotocol, hsize, hlen⟩
    exact hsend.writeMsg hC hprotocol hsize hlen
  · intro c c' sent hsend hectx hencrypted
    exact ⟨hectx.trans hsend.context, hencrypted.trans hsend.encrypted, hsend.short⟩

lemma Agrees.start {a b : ChatSession (List UInt8) QString Ctx} {ctx : Ctx}
    (hectx : ∀ side, ((Link.start P a b).conn side).sess.chachaEctx = ctx)
    (hdctx : ∀ side, ((Link.start P a b).conn side).sess.chachaDctx = ctx) :
    (Link.start P a b).Agrees P C ctx := by
  have hestablished : ∀ side, ∃ sess, (Link.start P a b).conn side = Conn.established P sess := by
    rintro (_ | _)
    · exact ⟨a, rfl⟩
    · exact ⟨b, rfl⟩
  refine ⟨fun side => ?_, fun side => ?_, fun side => ?_, fun side => ?_⟩
  all_goals obtain ⟨sess, hsess⟩ := hestablished side
  · rw [hsess]
    exact Conn.Talking.established sess
  · refine ⟨hectx side, ?_, fun payload hmem => absurd hmem List.not_mem_nil⟩
    rw [hsess]
    rfl
  · cases side with
    | near => exact congrArg (fun ctx => [ctx]) (hectx .near)
    | far => exact congrArg (fun ctx => [ctx]) (hectx .far)
  · refine ⟨[], [], ?_⟩
    rw [← hdctx side, hsess]
    exact Conn.Receiving.established sess

/-- Every run of two sessions with one key, whoever feeds the reads. -/
theorem agrees (q : Qt (List UInt8) QString) (k : Curve)
    {a b : ChatSession (List UInt8) QString ChachaContext}
    (hkey : a.chacha20Key = b.chacha20Key) {es : List (LinkEvent QString)}
    {l : Link QString ChachaContext}
    (h : Run (StepOf (Link.step (bytePrimitives q k mbedtlsChacha20)))
      (Link.start (bytePrimitives q k mbedtlsChacha20) a b) es l) :
    l.Agrees (bytePrimitives q k mbedtlsChacha20) chacha20Cipher
      (a.chachaEctx.started a.chacha20Key) := by
  refine h.invariant (Agrees.start ?_ ?_) (fun _ _ _ hagrees hs => hagrees.step rfl (step_step hs))
  · rintro (_ | _)
    · rfl
    · exact congrArg b.chachaEctx.started hkey.symm
  · rintro (_ | _)
    · rfl
    · exact congrArg b.chachaDctx.started hkey.symm

end Link

end Enchat
