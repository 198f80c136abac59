import Enchat.Model.Sample
import Enchat.Proofs.LinkRun

/-!
# Texts over a stream that an attacker controls

Frames carry no authentication code. What a side hands to `onTextMsg` is the received stream
decrypted with the running keystream, and a bit that is flipped on the way is flipped in the text.
-/

namespace Enchat
open Buffer Transition

variable {QString Ctx : Type} {P : Primitives (List UInt8) QString Ctx} {C : StreamCipher Ctx}

/-- The frames with the payload of the `j`-th one XORed with the `j`-th mask. -/
def tampered (masks : ℕ → ℕ → UInt8) (frames : List (List UInt8)) : List (List UInt8) :=
  frames.mapIdx fun j f => f.take 4 ++ xorStream (masks j) (f.drop 4)

lemma tampered_msgFrame (masks : ℕ → ℕ → UInt8) (ciphers : List (List UInt8)) :
    tampered masks (ciphers.map msgFrame) =
      (ciphers.mapIdx fun j cipher => xorStream (masks j) cipher).map msgFrame := by
  have hframe : ∀ (mask : ℕ → UInt8) (cipher : List UInt8),
      (msgFrame cipher).take 4 ++ xorStream mask ((msgFrame cipher).drop 4) =
        msgFrame (xorStream mask cipher) := by
    intro mask cipher
    rw [drop_msgFrame, msgFrame, msgFrame, length_xorStream]
    rfl
  refine List.ext_getElem? (fun j => ?_)
  simp only [tampered, List.getElem?_mapIdx, List.getElem?_map, Option.map_map, Function.comp_def,
    hframe]

lemma tampered_zero (frames : List (List UInt8)) : tampered (fun _ _ => 0) frames = frames := by
  simp [tampered, List.mapIdx_eq_iff]

/-- A text that survives the conversion to UTF-8, has no NUL and leaves room for one. -/
def Plain (P : Primitives (List UInt8) QString Ctx) (text : QString) : Prop :=
  (P.toUtf8 text).length ≤ 4091 ∧ (∀ b ∈ P.toUtf8 text, b ≠ 0) ∧
    P.fromUtf8 (P.toUtf8 text) = text

lemma filterMap_msgText {payloads : List (List UInt8)} (h : ∀ p ∈ payloads, p.length ≤ 4091) :
    (payloads.map (frameBuffer ∘ msgFrame)).filterMap (msgText P) =
      payloads.map fun p => P.fromUtf8 (cString p) := by
  induction payloads with
  | nil => rfl
  | cons p payloads ih =>
    have hp : msgText P ((frameBuffer ∘ msgFrame) p) = some (P.fromUtf8 (cString p)) :=
      msgText_frameBuffer (h p (by simp))
    rw [List.map_cons, List.filterMap_cons_some hp, ih (fun p hmem => h p (by simp [hmem])),
      List.map_cons]

namespace Link

/-- The sides send plain texts only. -/
def SendsTexts (P : Primitives (List UInt8) QString Ctx) (_ : Link QString Ctx) :
    LinkEvent QString → Prop
  | .writeMsg _ => False
  | .sendTextMsg _ text => Plain P text
  | .socket _ _ => True

instance [DecidableEq QString] (l : Link QString Ctx) :
    (ev : LinkEvent QString) → Decidable (SendsTexts P l ev)
  | .writeMsg _ => .isFalse not_false
  | .sendTextMsg _ text => inferInstanceAs (Decidable (_ ∧ (∀ b ∈ P.toUtf8 text, b ≠ 0) ∧ _ = _))
  | .socket _ _ => .isTrue trivial

lemma texts_of_tampered {ctx : Ctx} {l : Link QString Ctx} (hagrees : l.Agrees P C ctx) {side : Side}
    (hsent : l.sent side.other = (l.texts side.other).map P.toUtf8)
    (hplain : ∀ text ∈ l.texts side.other, Plain P text) {masks : ℕ → ℕ → UInt8}
    (hfed : l.received side <+: (tampered masks (l.conn side.other).encrypted).flatten) :
    (l.conn side).texts <+: (l.texts side.other).mapIdx fun j text =>
      P.fromUtf8 (cString (xorStream (masks j) (P.toUtf8 text))) := by
  obtain ⟨frames, part, hr⟩ := hagrees.receiving side
  have hsend := hagrees.sending side.other
  rw [hsend.encrypted, tampered_msgFrame] at hfed
  have hframe : ∀ f ∈ (((C.outputs ctx (l.sent side.other)).mapIdx fun j cipher =>
      xorStream (masks j) cipher).map msgFrame), msgFraming.IsFrame f := by
    intro f hmem
    obtain ⟨cipher', hmem', rfl⟩ := List.mem_map.mp hmem
    obtain ⟨j, hj, rfl⟩ := List.mem_mapIdx.mp hmem'
    obtain ⟨payload, hpayload, hlength⟩ := C.exists_of_mem_outputs (List.getElem_mem hj)
    have hshort := hsend.short payload hpayload
    exact isFrame_msgFrame (by rw [length_xorStream]; omega)
  rw [hr.cut] at hfed
  obtain ⟨rest, hrest, _⟩ := Framing.prefix_of_flatten hr.isFrame hframe hfed
  obtain ⟨_, hhandled, _⟩ := hr.of_prefix ⟨rest, hrest.symm⟩
  rw [C.outputs_changed, hsent] at hhandled
  have hshort : ∀ p ∈ (((l.texts side.other).map P.toUtf8).mapIdx fun j m =>
      xorStream (masks j) m).take (l.conn side).handled.length, p.length ≤ 4091 := by
    intro p hmem
    obtain ⟨j, hj, rfl⟩ := List.mem_mapIdx.mp (List.mem_of_mem_take hmem)
    obtain ⟨text, htext, heq⟩ := List.mem_map.mp (List.getElem_mem hj)
    rw [length_xorStream, ← heq]
    exact (hplain text htext).1
  have htexts : (((l.texts side.other).map P.toUtf8).mapIdx fun j m => xorStream (masks j) m).map
      (fun p => P.fromUtf8 (cString p)) = (l.texts side.other).mapIdx fun j text =>
        P.fromUtf8 (cString (xorStream (masks j) (P.toUtf8 text))) := by
    refine List.ext_getElem? (fun j => ?_)
    simp only [List.getElem?_map, List.getElem?_mapIdx, Option.map_map, Function.comp_def]
  rw [hr.texts, hhandled, filterMap_msgText hshort, List.map_take, htexts]
  exact List.take_prefix _ _

def startContext (a : ChatSession (List UInt8) QString ChachaContext) : ChachaContext :=
  a.chachaEctx.started a.chacha20Key

/-- Frames are not authenticated. The texts that a side hands over are those of the frames that it
finds in what it receives, decrypted with the running keystream. When the attacker XORs masks into
the payloads and cuts the stream somewhere, they are the first texts of the other side with the
masks XORed into them, so that masks of zeros leave a prefix of the texts that were sent. -/
theorem tampered_texts (q : Qt (List UInt8) QString) (k : Curve)
    {a b : ChatSession (List UInt8) QString ChachaContext} (hkey : a.chacha20Key = b.chacha20Key)
    {es : List (LinkEvent QString)} {l : Link QString ChachaContext}
    (h : Run (Guarded (StepOf (Link.step (bytePrimitives q k mbedtlsChacha20)))
      (SendsTexts (bytePrimitives q k mbedtlsChacha20)))
      (Link.start (bytePrimitives q k mbedtlsChacha20) a b) es l) (side : Side) :
    (∃ frames part, l.received side = frames.flatten ++ part ∧
      (∀ f ∈ frames, msgFraming.IsFrame f) ∧
      ((∀ f ∈ frames, f.length ≤ 4095) → (l.conn side).texts =
        (receiveFrames chacha20Cipher (startContext a) frames).2.filterMap
          (msgText (bytePrimitives q k mbedtlsChacha20)))) ∧
    (∀ masks : ℕ → ℕ → UInt8,
      l.received side <+: (tampered masks (l.conn side.other).encrypted).flatten →
      (l.conn side).texts <+: (l.texts side.other).mapIdx fun j text =>
        q.fromUtf8 (cString (xorStream (masks j) (q.toUtf8 text)))) ∧
    (l.received side <+: (l.conn side.other).encrypted.flatten →
      (l.conn side).texts <+: l.texts side.other) := by
  have hagrees := agrees q k hkey h.of_guarded
  obtain ⟨hsent, hplain⟩ := sent_eq_texts (V := Plain (bytePrimitives q k mbedtlsChacha20))
    (fun _ _ => not_false) (fun _ _ _ h => h) h side.other
  refine ⟨?_, fun masks => texts_of_tampered hagrees hsent hplain, ?_⟩
  · obtain ⟨frames, part, hr⟩ := hagrees.receiving side
    refine ⟨frames, part, hr.cut, hr.isFrame, fun _ => ?_⟩
    rw [hr.texts, hr.handled]
    rfl
  · intro hfed
    rw [← tampered_zero (l.conn side.other).encrypted] at hfed
    have hpre := texts_of_tampered hagrees hsent hplain hfed
    have hsame : ((l.texts side.other).mapIdx fun _ text =>
        q.fromUtf8 (cString (xorStream (fun _ => 0) (q.toUtf8 text)))) = l.texts side.other := by
      rw [List.mapIdx_eq_iff]
      intro j
      cases htext : (l.texts side.other)[j]? with
      | none => rfl
      | some text =>
        obtain ⟨_, hnul, hround⟩ := hplain text (List.mem_of_getElem? htext)
        have hwhole : cString (q.toUtf8 text) = q.toUtf8 text := cString_of_ne_zero hnul
        rw [Option.map_some, xorStream_zero, hwhole]
        exact congrArg some hround.symm
    exact hsame ▸ hpre

/-- A text that reaches the other side unchanged. -/
theorem tampered_texts_unchanged :
    ∃ (es : List (LinkEvent (List UInt8))) (l : Link (List UInt8) ChachaContext),
      Run (Guarded (StepOf (Link.step samplePrimitives)) (SendsTexts samplePrimitives))
        (Link.start samplePrimitives sampleClientDone.beforeInit sampleServerDone.beforeInit) es l ∧
      (l.conn .far).texts <+: l.texts .near ∧ (l.conn .far).texts = [[97]] := by
  let test (l : Link (List UInt8) ChachaContext) : Bool :=
    decide (l.received .far <+: (l.conn .near).encrypted.flatten) &&
      decide ((l.conn .far).texts = [[97]])
  obtain ⟨l, hrun, hp⟩ := exists_guarded_run_of_exec (Link.step samplePrimitives)
    (SendsTexts samplePrimitives)
    [.sendTextMsg .near [97], .sendTextMsg .near [98], .socket .near (.writeSome 0 5),
      .socket .far (.readSome 0 [1, 0]), .socket .far (.readDone 0),
      .socket .far (.readSome 0 [1, 0, 8]), .socket .far (.readDone 0)]
    test (s := Link.start samplePrimitives sampleClientDone.beforeInit sampleServerDone.beforeInit)
    (by decide +kernel)
  simp only [test, Bool.and_eq_true, decide_eq_true_eq] at hp
  obtain ⟨hreceived, hfar⟩ := hp
  obtain ⟨_, _, hunchanged⟩ := tampered_texts sampleQt sampleCurve sample_keys_agree hrun .far
  exact ⟨_, l, hrun, hunchanged hreceived, hfar⟩

/-- An attacker XORs 3 into the one payload byte, and "a" is handed over as "b". -/
theorem flipped_text :
    ∃ (es : List (LinkEvent (List UInt8))) (l : Link (List UInt8) ChachaContext),
      Run (StepOf (Link.step samplePrimitives))
        (Link.start samplePrimitives sampleClientDone.beforeInit sampleServerDone.beforeInit) es l ∧
      l.received .far = (tampered (fun _ _ => 3) (l.conn .near).encrypted).flatten ∧
      l.texts .near = [[97]] ∧ (l.conn .far).texts = [[98]] ∧
      ¬(l.conn .far).texts <+: l.texts .near := by
  let test (l : Link (List UInt8) ChachaContext) : Bool :=
    decide (l.received .far = (tampered (fun _ _ => 3) (l.conn .near).encrypted).flatten) &&
      decide (l.texts .near = [[97]]) && decide ((l.conn .far).texts = [[98]])
  obtain ⟨l, hrun, hp⟩ := exists_run_of_exec (Link.step samplePrimitives)
    [.sendTextMsg .near [97], .socket .near (.writeSome 0 5), .socket .far (.readSome 0 [1, 0]),
      .socket .far (.readDone 0), .socket .far (.readSome 0 [1, 0, 11]), .socket .far (.readDone 0)]
    test (s := Link.start samplePrimitives sampleClientDone.beforeInit sampleServerDone.beforeInit)
    (by decide +kernel)
  simp only [test, Bool.and_eq_true, decide_eq_true_eq] at hp
  obtain ⟨⟨hreceived, hnear⟩, hfar⟩ := hp
  refine ⟨_, l, hrun, hreceived, hnear, hfar, ?_⟩
  rw [hnear, hfar]
  decide

end Link

end Enchat
