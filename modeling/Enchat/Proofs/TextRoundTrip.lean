import Enchat.Library.Utf8
import Enchat.Model.Sample
import Enchat.Proofs.Delivery

/-!
# Texts over a reliable stream

`sendTextMsg` sends a counted byte string, and `handleReadMsg` gives `QString::fromUtf8` a pointer
into a buffer. What lies behind the buffer is part of the text as soon as the buffer holds no NUL.
-/

namespace Enchat
open Buffer Transition

variable {QString Ctx : Type} {P : Primitives (List UInt8) QString Ctx}

/-- What `onTextMsg` is given for a buffer when `memory` lies behind it. -/
def msgTextOver (P : Primitives (List UInt8) QString Ctx) (memory msg : List UInt8) :
    Option QString :=
  if getU16 msg 2 = 1 then some (P.fromUtf8 (cString (msg.drop 4 ++ memory))) else none

/-- The texts that a session hands over when `memory j` lies behind the `j`-th buffer. -/
def Conn.textsOver (P : Primitives (List UInt8) QString Ctx) (memory : ℕ → List UInt8)
    (c : Conn QString Ctx) : List QString :=
  c.handled.zipIdx.filterMap fun m => msgTextOver P (memory m.2) m.1

/-- The bytes that `fromUtf8` decodes for a payload. -/
def heard (payload memory : List UInt8) : List UInt8 :=
  cString (payload ++ ((List.replicate 4096 0).drop (payload.length + 4) ++ memory))

/-- What Qt documents: `toUtf8` of a text is the UTF-8 form of its characters, and `fromUtf8`
decodes it. -/
structure Qt.Utf8 (q : Qt (List UInt8) QString) (text : List Char → QString) : Prop where
  toUtf8 : ∀ chars, q.toUtf8 (text chars) = utf8 chars
  fromUtf8 : ∀ chars, q.fromUtf8 (q.toUtf8 (text chars)) = text chars

/-- The application calls `sendTextMsg` only, with valid texts. -/
def LinkEvent.SendsText (text : List Char → QString) : LinkEvent QString → Prop
  | .writeMsg _ => False
  | .sendTextMsg _ t => ∃ chars, text chars = t
  | .socket _ _ => True

/-- The strings of the small platform are the UTF-8 forms themselves. -/
lemma sampleQt_utf8 : sampleQt.Utf8 utf8 where
  toUtf8 _ := rfl
  fromUtf8 _ := rfl

lemma heard_of_room {payload : List UInt8} (h : payload.length ≤ 4091) (memory : List UInt8) :
    heard payload memory = cString payload := by
  rw [heard, zeros_behind h, List.cons_append, cString_append_zero]

lemma heard_of_full {payload : List UInt8} (h : payload.length = 4092) (memory : List UInt8) :
    heard payload memory = cString (payload ++ memory) := by
  rw [heard, List.drop_of_length_le (by rw [List.length_replicate, h]), List.nil_append]

lemma msgTextOver_frameBuffer {payload : List UInt8} (h : payload.length ≤ 4092)
    (memory : List UInt8) :
    msgTextOver P memory (frameBuffer (msgFrame payload)) =
      some (P.fromUtf8 (heard payload memory)) := by
  have hlen := length_msgFrame payload
  have hprotocol : getU16 (frameBuffer (msgFrame payload)) 2 = 1 := by
    rw [getU16_frameBuffer (by omega), protocol_msgFrame]
  rw [msgTextOver, if_pos hprotocol, drop_frameBuffer, List.append_assoc]
  rfl

/-- Without further memory the texts are those of the calls of `onTextMsg`. -/
lemma Conn.Receiving.textsOver_nil {C : StreamCipher Ctx} {d : Ctx} {c : Conn QString Ctx}
    {stream part : List UInt8} {frames : List (List UInt8)}
    (h : c.Receiving P C d stream frames part) : c.textsOver P (fun _ => []) = c.texts := by
  have hsame : ∀ m : List UInt8 × ℕ, msgTextOver P [] m.1 = msgText P m.1 := by
    intro m
    rw [msgTextOver, List.append_nil]
    rfl
  have hfst : c.handled.zipIdx.map Prod.fst = c.handled := List.zipIdx_map_fst 0 c.handled
  unfold textsOver
  simp only [hsame]
  rw [h.texts]
  conv_rhs => rw [← hfst, List.filterMap_map]
  rfl

namespace Qt.Utf8
variable {q : Qt (List UInt8) QString} {text : List Char → QString}

/-- A text that is decoded from a NUL-terminated string has exactly the bytes of the string. -/
lemma cString_eq (hq : q.Utf8 text) {chars chars' : List Char}
    (h : q.fromUtf8 (cString (utf8 chars')) = text chars) : cString (utf8 chars') = utf8 chars := by
  rw [cString_utf8, ← hq.toUtf8, hq.fromUtf8] at h
  rw [cString_utf8, ← hq.toUtf8, h, hq.toUtf8]

/-- A text comes back from its payload, whatever lies behind the buffer, if and only if it leaves
room for a NUL and contains none. -/
lemma heard_iff (hq : q.Utf8 text) {chars : List Char} (hlen : (utf8 chars).length ≤ 4092) :
    (∀ memory, q.fromUtf8 (heard (utf8 chars) memory) = text chars) ↔
      (utf8 chars).length ≤ 4091 ∧ 0 ∉ utf8 chars := by
  have hnone : cString (utf8 chars) = utf8 chars → 0 ∉ utf8 chars := by
    intro heq hmem
    have hlt := (length_cString_lt_iff (utf8 chars)).mpr hmem
    rw [heq] at hlt
    exact Nat.lt_irrefl _ hlt
  constructor
  · intro h
    by_cases hroom : (utf8 chars).length ≤ 4091
    · have hheard := h []
      rw [heard_of_room hroom] at hheard
      exact ⟨hroom, hnone (hq.cString_eq hheard)⟩
    · -- an "A" behind the buffer becomes part of the text
      have hA : utf8 chars ++ [65, 0] = utf8 (chars ++ ['A']) ++ 0 :: [] := by
        rw [utf8_append, List.append_assoc]
        rfl
      have hheard := h [65, 0]
      rw [heard_of_full (by omega), hA, cString_append_zero] at hheard
      have heq := hq.cString_eq hheard
      rw [utf8_append] at heq
      by_cases hmem : 0 ∈ utf8 chars
      · rw [cString_append_of_mem hmem] at heq
        exact absurd hmem (hnone heq)
      · have hne : ∀ b ∈ utf8 chars ++ utf8 ['A'], b ≠ 0 := by
          intro b hb hzero
          subst hzero
          rcases List.mem_append.mp hb with hold | hnew
          · exact hmem hold
          · revert hnew
            decide
        rw [cString_of_ne_zero hne] at heq
        have hlength := congrArg List.length heq
        have hone : (utf8 ['A']).length = 1 := rfl
        rw [List.length_append, hone] at hlength
        omega
  · rintro ⟨hroom, hnul⟩ memory
    have hne : ∀ b ∈ utf8 chars, b ≠ 0 := fun b hb hzero => hnul (hzero ▸ hb)
    rw [heard_of_room hroom, cString_of_ne_zero hne, ← hq.toUtf8]
    exact hq.fromUtf8 chars

end Qt.Utf8

/-- The texts that are heard when the payloads are those of `texts`. -/
lemma Conn.textsOver_eq {c : Conn QString Ctx} {texts : List QString}
    (hhandled : c.handled = (texts.map P.toUtf8).map (frameBuffer ∘ msgFrame))
    (hlen : ∀ t ∈ texts, (P.toUtf8 t).length ≤ 4092) (memory : ℕ → List UInt8) :
    c.textsOver P memory =
      texts.zipIdx.map fun t => P.fromUtf8 (heard (P.toUtf8 t.1) (memory t.2)) := by
  unfold textsOver
  rw [hhandled, List.map_map, List.zipIdx_map, List.filterMap_map]
  apply List.filterMap_eq_map_iff_forall_eq_some.mpr
  intro t ht
  exact msgTextOver_frameBuffer (hlen t.1 (List.fst_mem_of_mem_zipIdx ht)) (memory t.2)

namespace Link

/-- On a settled reliable link every text sent has been heard once, in order. -/
lemma textsOver_settled {C : StreamCipher Ctx} {ctx : Ctx} {l : Link QString Ctx} (hflows : l.Flows)
    (hagrees : l.Agrees P C ctx) (hsettled : l.Settled P) {side : Side}
    (hsent : l.sent side.other = (l.texts side.other).map P.toUtf8) (memory : ℕ → List UInt8) :
    (l.conn side).textsOver P memory = (l.texts side.other).zipIdx.map fun t =>
      P.fromUtf8 (heard (P.toUtf8 t.1) (memory t.2)) := by
  obtain ⟨_, hhandled, _⟩ := hflows.handled hagrees side
  have hcomplete := congrArg List.length (hflows.complete hagrees hsettled side)
  rw [Conn.payloads, List.length_map] at hcomplete
  rw [hcomplete, List.take_length, hsent] at hhandled
  apply Conn.textsOver_eq hhandled
  intro t ht
  apply (hagrees.sending side.other).short
  rw [hsent]
  exact List.mem_map_of_mem ht

/-- Texts of at most 4092 bytes are sent one after another over a reliable stream. The sockets come
to an end, and then the calls of `onTextMsg` repeat the texts exactly, whatever lies behind the
receive buffers, if and only if each text has at most 4091 bytes and contains no NUL. -/
theorem texts_round_trip_iff {q : Qt (List UInt8) QString} (k : Curve)
    {text : List Char → QString} (hq : q.Utf8 text)
    {a b : ChatSession (List UInt8) QString ChachaContext} (hkey : a.chacha20Key = b.chacha20Key)
    {es : List (LinkEvent QString)} {l : Link QString ChachaContext}
    (h : Run (Guarded (StepOf (Link.step (bytePrimitives q k mbedtlsChacha20))) Link.Reliable)
      (Link.start (bytePrimitives q k mbedtlsChacha20) a b) es l)
    (htexts : ∀ ev ∈ es, ev.SendsText text) (side : Side) :
    (l.conn side).textsOver (bytePrimitives q k mbedtlsChacha20) (fun _ => []) =
      (l.conn side).texts ∧
    (∀ side' ev l', l.Reliable (.socket side' ev) →
      l.step (bytePrimitives q k mbedtlsChacha20) (.socket side' ev) = some l' →
      l'.work < l.work) ∧
    (l.Settled (bytePrimitives q k mbedtlsChacha20) →
      ((∀ memory, (l.conn side).textsOver (bytePrimitives q k mbedtlsChacha20) memory =
          l.texts side.other) ↔
        ∀ t ∈ l.texts side.other, (q.toUtf8 t).length ≤ 4091 ∧ 0 ∉ q.toUtf8 t)) := by
  have hagrees := agrees q k hkey h.of_guarded
  have hflows := flows q k hkey h
  obtain ⟨hsent, hvalid⟩ := sent_eq_texts (V := fun t => ∃ chars, text chars = t)
    (G := fun _ => LinkEvent.SendsText text) (fun _ _ => not_false) (fun _ _ _ h => h)
    (h.of_guarded.guarded_of_forall htexts) side.other
  refine ⟨?_, fun side' ev l' => hflows.work_lt hagrees, ?_⟩
  · obtain ⟨_, _, hr⟩ := hagrees.receiving side
    exact hr.textsOver_nil
  · intro hsettled
    have hfst : (l.texts side.other).zipIdx.map Prod.fst = l.texts side.other :=
      List.zipIdx_map_fst 0 _
    have hheard : ∀ t ∈ l.texts side.other,
        (∀ memory, q.fromUtf8 (heard (q.toUtf8 t) memory) = t) ↔
          (q.toUtf8 t).length ≤ 4091 ∧ 0 ∉ q.toUtf8 t := by
      intro t ht
      obtain ⟨chars, rfl⟩ := hvalid t ht
      have hshort : (q.toUtf8 (text chars)).length ≤ 4092 := by
        apply (hagrees.sending side.other).short
        rw [hsent]
        exact List.mem_map_of_mem ht
      rw [hq.toUtf8] at hshort ⊢
      exact hq.heard_iff hshort
    constructor
    · intro hall t ht
      apply (hheard t ht).mp
      intro memory
      have heq := hall (fun _ => memory)
      rw [textsOver_settled hflows hagrees hsettled hsent] at heq
      conv_rhs at heq => rw [← hfst]
      obtain ⟨j, hj⟩ := List.mem_iff_getElem?.mp ht
      exact List.map_inj_left.mp heq (t, j) (List.mk_mem_zipIdx_iff_getElem?.mpr hj)
    · intro hplain memory
      rw [textsOver_settled hflows hagrees hsettled hsent]
      conv_rhs => rw [← hfst]
      apply List.map_congr_left
      intro t ht
      have hmem := List.fst_mem_of_mem_zipIdx ht
      exact (hheard t.1 hmem).mpr (hplain t.1 hmem) (memory t.2)

/-- Nothing is left to write, and everything written has been read. -/
def atRest (l : Link QString Ctx) (side : Side) : Bool :=
  decide ((l.conn side).writes = []) &&
    (l.conn side).reads.all (fun op => decide (op.got.length < op.need)) &&
    decide (l.received side = (l.conn side.other).wireBytes)

lemma settled_of_atRest {l : Link QString Ctx} (h : l.atRest .near && l.atRest .far) :
    l.Settled P := by
  have hrest : ∀ side, l.atRest side = true := by
    obtain ⟨hnear, hfar⟩ := Bool.and_eq_true_iff.mp h
    intro side
    cases side with
    | near => exact hnear
    | far => exact hfar
  simp only [atRest, Bool.and_eq_true, decide_eq_true_eq, List.all_eq_true] at hrest
  exact settled_of_quiet (fun side => (hrest side).1.1) (fun side => (hrest side).1.2)
    (fun side => (hrest side).2)

/-- Two texts, the second one empty. -/
theorem texts_round_trip_two :
    ∃ (es : List (LinkEvent (List UInt8))) (l : Link (List UInt8) ChachaContext),
      Run (Guarded (StepOf (Link.step samplePrimitives)) Link.Reliable)
        (Link.start samplePrimitives sampleClientDone.beforeInit sampleServerDone.beforeInit) es l ∧
      l.Settled samplePrimitives ∧
      ∀ memory, (l.conn .far).textsOver samplePrimitives memory = [utf8 ['h', 'i'], utf8 []] := by
  let es : List (LinkEvent (List UInt8)) :=
    [.sendTextMsg .near (utf8 ['h', 'i']), .socket .near (.writeSome 0 6),
      .socket .near (.writeDone 0), .sendTextMsg .near (utf8 []), .socket .near (.writeSome 0 4),
      .socket .near (.writeDone 0), .socket .far (.readSome 0 [2, 0]), .socket .far (.readDone 0),
      .socket .far (.readSome 0 [1, 0, 1, 89]), .socket .far (.readDone 0),
      .socket .far (.readSome 0 [0, 0]), .socket .far (.readDone 0),
      .socket .far (.readSome 0 [1, 0]), .socket .far (.readDone 0)]
  let test (l : Link (List UInt8) ChachaContext) : Bool :=
    decide (l.texts .near = [utf8 ['h', 'i'], utf8 []]) && (l.atRest .near && l.atRest .far)
  obtain ⟨l, hrun, hp⟩ := exists_guarded_run_of_exec (Link.step samplePrimitives) Link.Reliable es
    test (s := Link.start samplePrimitives sampleClientDone.beforeInit sampleServerDone.beforeInit)
    (by decide +kernel)
  obtain ⟨htexts, hrest⟩ := Bool.and_eq_true_iff.mp hp
  have hnear : l.texts .near = [utf8 ['h', 'i'], utf8 []] := of_decide_eq_true htexts
  have hsettled : l.Settled samplePrimitives := settled_of_atRest hrest
  have hes : ∀ ev ∈ es, ev.SendsText utf8 := by
    simp [es, LinkEvent.SendsText, -utf8_cons]
  obtain ⟨_, _, hiff⟩ :=
    texts_round_trip_iff sampleCurve sampleQt_utf8 sample_keys_agree hrun hes .far
  have hplain : ∀ t ∈ l.texts .near,
      (sampleQt.toUtf8 t).length ≤ 4091 ∧ 0 ∉ sampleQt.toUtf8 t := by
    rw [hnear]
    decide
  exact ⟨es, l, hrun, hsettled, hnear ▸ (hiff hsettled).mpr hplain⟩

/-- "a", NUL, "b" is heard as "a". -/
theorem nul_cuts_text :
    ∃ (es : List (LinkEvent (List UInt8))) (l : Link (List UInt8) ChachaContext),
      Run (Guarded (StepOf (Link.step samplePrimitives)) Link.Reliable)
        (Link.start samplePrimitives sampleClientDone.beforeInit sampleServerDone.beforeInit) es l ∧
      (∀ ev ∈ es, ev.SendsText utf8) ∧ l.Settled samplePrimitives ∧
      l.texts .near = [utf8 ['a', '\x00', 'b']] ∧ (l.conn .far).texts = [utf8 ['a']] ∧
      (l.conn .far).texts ≠ l.texts .near := by
  let es : List (LinkEvent (List UInt8)) :=
    [.sendTextMsg .near (utf8 ['a', '\x00', 'b']), .socket .near (.writeSome 0 7),
      .socket .near (.writeDone 0), .socket .far (.readSome 0 [3, 0]), .socket .far (.readDone 0),
      .socket .far (.readSome 0 [1, 0, 8, 48, 61]), .socket .far (.readDone 0)]
  let test (l : Link (List UInt8) ChachaContext) : Bool :=
    decide (l.texts .near = [utf8 ['a', '\x00', 'b']]) &&
      decide ((l.conn .far).texts = [utf8 ['a']]) && (l.atRest .near && l.atRest .far)
  obtain ⟨l, hrun, hp⟩ := exists_guarded_run_of_exec (Link.step samplePrimitives) Link.Reliable es
    test (s := Link.start samplePrimitives sampleClientDone.beforeInit sampleServerDone.beforeInit)
    (by decide +kernel)
  obtain ⟨htexts, hrest⟩ := Bool.and_eq_true_iff.mp hp
  simp only [Bool.and_eq_true, decide_eq_true_eq] at htexts
  obtain ⟨hnear, hfar⟩ := htexts
  have hes : ∀ ev ∈ es, ev.SendsText utf8 := by
    simp [es, LinkEvent.SendsText, -utf8_cons]
  refine ⟨es, l, hrun, hes, settled_of_atRest hrest, hnear, hfar, ?_⟩
  rw [hnear, hfar]
  decide

end Link

end Enchat
