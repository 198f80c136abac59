import Enchat.Model.Sample
import Enchat.Proofs.LinkRun

/-!
# The bounds of the send buffer

`sendTextMsg` allocates 4096 bytes without clearing them, copies the text behind a header of four
bytes and gives `writeMsg` its length as a 16-bit number.
-/

namespace Enchat
open Buffer Transition

variable {QString Ctx : Type} (P : Primitives (List UInt8) QString Ctx)

/-- The buffer of `sendTextMsg` when the allocation had left `heap` in it. -/
def textMsgOver (heap : List UInt8) (text : QString) : List UInt8 :=
  store (store heap 4 (P.toUtf8 text)) 2 (putU16 1)

/-- The offsets that the `memcpy` of `sendTextMsg` writes. -/
def copiedOffsets (text : QString) : List ℕ :=
  List.range' 4 (P.toUtf8 text).length

/-- The offsets that `writeMsg` encrypts in place. -/
def encryptedOffsets (size : UInt16) : List ℕ :=
  List.range' 4 size.toNat

/-- The offsets that `writeMsg` gives to `async_write`. -/
def sentOffsets (size : UInt16) : List ℕ :=
  List.range' 0 (size.toNat + 4)

/-- One call of `sendTextMsg` that finds session `s`. Offsets 2 and 3 are the protocol field,
offsets 0 and 1 the size that `writeMsg` stores. -/
structure SendsInBounds [DecidableEq QString] (e : Endpoint QString Ctx) (s : ℕ)
    (id text : QString) : Prop where
  copy : ∀ a ∈ copiedOffsets P text, a < 4096
  size : (textMsg P text).2.toNat = (P.toUtf8 text).length
  encrypt : ∀ a ∈ encryptedOffsets (textMsg P text).2,
    a < 4096 ∧ a ∈ copiedOffsets P text ++ [2, 3]
  send : ∀ a ∈ sentOffsets (textMsg P text).2,
    a < 4096 ∧ a ∈ copiedOffsets P text ++ [2, 3] ++ encryptedOffsets (textMsg P text).2 ++ [0, 1]
  /-- Nothing that the allocation had left reaches the session or the socket. -/
  written : ∀ c ∈ e.sessions[s]?, ∀ heap : List UInt8, heap.length = 4096 →
    c.sess.encryptMsg P (textMsgOver P heap text) (textMsg P text).2 =
      c.sess.encryptMsg P (textMsg P text).1 (textMsg P text).2
  refused : 4092 < (P.toUtf8 text).length → e.sendTextMsg P id text = (e, false)

variable {P} {C : StreamCipher Ctx}

lemma textMsgOver_zero (text : QString) :
    textMsgOver P (List.replicate 4096 0) text = (textMsg P text).1 := rfl

/-- What `writeMsg` makes of a text that fits, whatever was in the buffer before. -/
lemma encryptMsg_textMsgOver (hC : P.mbedtlsChacha20Update = C.update)
    (s : ChatSession (List UInt8) QString Ctx) {text : QString}
    (hfits : (P.toUtf8 text).length ≤ 4092) {heap : List UInt8} (hheap : heap.length = 4096) :
    s.encryptMsg P (textMsgOver P heap text) (textMsg P text).2 =
      ({ s with chachaEctx := (C.update s.chachaEctx (P.toUtf8 text)).1 },
        msgFrame (C.update s.chachaEctx (P.toUtf8 text)).2) := by
  have hsize := (textMsg_eq (P := P) hfits).2
  have hfour : 4 ≤ heap.length := by omega
  have hstore := store_protocol hfour (P.toUtf8 text)
  have htwo : (heap.take 2).length = 2 := by
    rw [List.length_take]
    omega
  have hheader : (heap.take 2 ++ putU16 1).length = 4 := by
    rw [List.length_append, htwo, length_putU16]
  have hpayload : ((textMsgOver P heap text).drop 4).take (textMsg P text).2.toNat =
      P.toUtf8 text := by
    rw [textMsgOver, hstore, List.drop_left' hheader, hsize, List.take_left]
  have hprotocol : getU16 (textMsgOver P heap text) 2 = 1 := by
    rw [textMsgOver, hstore, ← getU16_drop, List.append_assoc, List.drop_left' htwo,
      getU16_putU16]
    rfl
  have hlength : (textMsg P text).2.toNat + 4 ≤ (textMsgOver P heap text).length := by
    rw [textMsgOver, hstore, hsize, List.length_append, hheader, List.length_append]
    omega
  rw [encryptMsg_eq hC s hprotocol hlength, hpayload]

namespace Endpoint
variable [DecidableEq QString]

lemma sendTextMsg_found {e : Endpoint QString Ctx} {id : QString} {s : ℕ}
    (hid : e.sessMap.lookup id = some s) (text : QString) : (e.sendTextMsg P id text).2 = true := by
  simp only [sendTextMsg, hid]

lemma sendsInBounds_of_fits (hC : P.mbedtlsChacha20Update = C.update) (e : Endpoint QString Ctx)
    (s : ℕ) (id : QString) {text : QString} (hfits : (P.toUtf8 text).length ≤ 4092) :
    SendsInBounds P e s id text := by
  have hsize := (textMsg_eq (P := P) hfits).2
  constructor
  · unfold copiedOffsets
    rw [forall_range'_lt_iff (by omega)]
    omega
  · exact hsize
  · intro a ha
    unfold encryptedOffsets at ha
    rw [hsize] at ha
    have hlt := List.mem_range'_1.mp ha
    exact ⟨by omega, List.mem_append_left _ ha⟩
  · intro a ha
    simp only [sentOffsets, copiedOffsets, encryptedOffsets, hsize, List.mem_append,
      List.mem_range'_1, List.mem_cons, List.not_mem_nil, or_false] at ha ⊢
    omega
  · intro c _ heap hheap
    rw [← textMsgOver_zero, encryptMsg_textMsgOver hC c.sess hfits hheap,
      encryptMsg_textMsgOver hC c.sess hfits (List.length_replicate ..)]
  · intro hlarge
    omega

/-- A call of `sendTextMsg` that finds a session keeps inside its buffer, announces the right size,
sends written bytes only and refuses what does not fit if and only if the text has at most 4092
bytes. No text is refused. -/
theorem send_in_bounds_iff (q : Qt (List UInt8) QString) (k : Curve)
    {e : Endpoint QString ChachaContext} {id : QString} {s : ℕ}
    (hid : e.sessMap.lookup id = some s) (text : QString) :
    (SendsInBounds (bytePrimitives q k mbedtlsChacha20) e s id text ↔
      (q.toUtf8 text).length ≤ 4092) ∧
    (e.sendTextMsg (bytePrimitives q k mbedtlsChacha20) id text).2 = true := by
  refine ⟨⟨?_, ?_⟩, sendTextMsg_found hid text⟩
  · intro h
    have hcopy := h.copy
    unfold copiedOffsets at hcopy
    rw [forall_range'_lt_iff (by omega)] at hcopy
    exact Nat.le_of_add_le_add_left hcopy
  · intro hfits
    exact sendsInBounds_of_fits (C := chacha20Cipher) rfl e s id hfits

lemma exists_connecting_client :
    ∃ (es : List (Event (List UInt8) ChachaContext)) (e : Endpoint (List UInt8) ChachaContext),
      Runs samplePrimitives .chatClient [] es e ∧ e.sessMap.lookup (sampleKey 7) = some 0 := by
  obtain ⟨e, hrun, hid⟩ := exists_run_of_exec (Endpoint.step samplePrimitives)
    [.doConnect (sampleKey 7) (sampleKey 3) sampleContext sampleContext]
    (fun e => decide (e.sessMap.lookup (sampleKey 7) = some 0))
    (s := Endpoint.init .chatClient []) (by decide +kernel)
  exact ⟨_, e, hrun, of_decide_eq_true hid⟩

/-- A text of two bytes on the session that `doConnect` has put into the map. -/
theorem send_in_bounds_two :
    ∃ (es : List (Event (List UInt8) ChachaContext)) (e : Endpoint (List UInt8) ChachaContext),
      Runs samplePrimitives .chatClient [] es e ∧ e.sessMap.lookup (sampleKey 7) = some 0 ∧
      SendsInBounds samplePrimitives e 0 (sampleKey 7) [104, 105] := by
  obtain ⟨es, e, hrun, hid⟩ := exists_connecting_client
  have hiff := (send_in_bounds_iff sampleQt sampleCurve hid [104, 105]).1
  exact ⟨es, e, hrun, hid, hiff.mpr (by decide)⟩

/-- One byte more than fits is copied behind the buffer. -/
theorem text_4093_overruns :
    ∃ (es : List (Event (List UInt8) ChachaContext)) (e : Endpoint (List UInt8) ChachaContext)
      (text : List UInt8), Runs samplePrimitives .chatClient [] es e ∧
      e.sessMap.lookup (sampleKey 7) = some 0 ∧ (sampleQt.toUtf8 text).length = 4093 ∧
      ¬SendsInBounds samplePrimitives e 0 (sampleKey 7) text := by
  obtain ⟨es, e, hrun, hid⟩ := exists_connecting_client
  have hlength : (sampleQt.toUtf8 (List.replicate 4093 65)).length = 4093 :=
    List.length_replicate ..
  refine ⟨es, e, List.replicate 4093 65, hrun, hid, hlength, ?_⟩
  intro h
  have hlast := h.copy 4096
  unfold copiedOffsets at hlast
  rw [List.mem_range'_1] at hlast
  have hcount : (samplePrimitives.toUtf8 (List.replicate 4093 65)).length = 4093 := hlength
  omega

end Endpoint

end Enchat
