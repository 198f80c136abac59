import Enchat.Model.Sample
import Enchat.Proofs.LinkRun
import Enchat.Proofs.WireOrder

/-!
# Delivery over a reliable stream

When the stream delivers what the other side has written, the frames that a side reads are the
frames that the other side has sent, and decryption undoes encryption.
-/

namespace Enchat
open Buffer Transition ListUpdate

variable {QString Ctx : Type} {P : Primitives (List UInt8) QString Ctx} {C : StreamCipher Ctx}

namespace Conn

/-- The payloads that the session has read, as they stand behind the headers. -/
def payloads (c : Conn QString Ctx) : List (List UInt8) := c.handled.map msgPayload

lemma Talking.finishes {contains : List UInt8 → Bool} {c c' : Conn QString Ctx}
    {ev : SocketEvent} {effs : List (Effect (List UInt8) QString)} (h : c.Talking)
    (hs : Step P contains c ev c' effs) : c'.finishes = c.finishes := by
  rcases hs.finishes_cases with ⟨hfin, _⟩ | ⟨_, op, _, hop, _, hh, _⟩
  · exact hfin
  · exact absurd hh (h.reads op (List.mem_of_getElem? hop))

lemma Step.wireBytes_grows {contains : List UInt8 → Bool} {c c' : Conn QString Ctx}
    {ev : SocketEvent} {effs : List (Effect (List UInt8) QString)}
    (hs : Step P contains c ev c' effs) : c.wireBytes <+: c'.wireBytes := by
  cases hs with
  | writeSome _ _ _ _ =>
    simp only [wireBytes, List.map_append]
    exact List.prefix_append _ _
  | _ => exact List.prefix_refl _

lemma Step.errors_of_works {contains : List UInt8 → Bool} {c c' : Conn QString Ctx}
    {ev : SocketEvent} {effs : List (Effect (List UInt8) QString)}
    (hs : Step P contains c ev c' effs) (hworks : Link.works ev = true) : c'.errors = c.errors := by
  cases hs with
  | connectAborted _ _ => cases hworks
  | connectFail _ => cases hworks
  | writeFail _ _ => cases hworks
  | readFail _ _ => cases hworks
  | _ => rfl

/-- A session whose connection has not failed, and that has put its frames on the wire in order. -/
structure Flows (c : Conn QString Ctx) : Prop where
  isOpen : c.isOpen = true
  errors : c.errors = []
  finishes : c.finishes = 1
  hellos : c.hellos = []
  inOrder : c.InOrder

lemma Flows.established (sess : ChatSession (List UInt8) QString Ctx) :
    (Conn.established P sess).Flows := by
  have hopening : (Conn.established P sess).opening = 0 := (Talking.established sess).opening
  refine ⟨rfl, rfl, rfl, rfl, ?_, ?_, ?_, ?_, ?_, ?_⟩
  · omega
  · intro hzero
    cases hzero
  · intro i op hop
    cases hop
  · intro herr
    cases herr
  · intro _
    rfl
  · exact List.nil_prefix

lemma Flows.writeMsg {c : Conn QString Ctx} (h : c.Flows) (ht : c.Talking)
    (hidle : ∀ op ∈ c.writes, op.data = []) (msg : List UInt8) (size : UInt16) :
    (c.writeMsg P msg size).Flows := by
  refine ⟨h.isOpen, h.errors, h.finishes, h.hellos, ?_⟩
  have hfin := h.finishes
  exact h.inOrder.writeMsg ht.opening (by omega) hidle (by simp [h.errors]) ht.waiting msg size

lemma Flows.step {contains : List UInt8 → Bool} {c c' : Conn QString Ctx} {ev : SocketEvent}
    {effs : List (Effect (List UInt8) QString)} (h : c.Flows) (ht : c.Talking)
    (hs : Step P contains c ev c' effs) (hworks : Link.works ev = true) : c'.Flows := by
  obtain ⟨_, _, hhellos, hopen⟩ := ht.step_frame hs
  have hfin := ht.finishes hs
  have hone := h.finishes
  have hopening := ht.opening
  have hopening' := (ht.step hs).opening
  refine ⟨hopen.trans h.isOpen, (hs.errors_of_works hworks).trans h.errors, hfin.trans hone,
    hhellos.trans h.hellos, h.inOrder.step (by omega) (by omega) hs ?_⟩
  rintro j rfl
  cases hworks

lemma Flows.wire {c : Conn QString Ctx} (h : c.Flows) (ht : c.Talking) :
    c.wireBytes ++ c.unsent = c.encrypted.flatten := by
  have hbytes := h.inOrder.bytes (by simp [h.errors])
  simpa [packets, h.hellos, ht.waiting] using hbytes

/-- What the socket of a session still has to do: bytes to transfer, writes to complete and a read
that is under way. -/
def work (c : Conn QString Ctx) : ℕ :=
  3 * c.unsent.length + c.writes.length + (c.reads.map fun op => op.got.length).sum

lemma Receiving.work_readDone {d : Ctx} {c c' : Conn QString Ctx} {stream part : List UInt8}
    {frames : List (List UInt8)} (h : c.Receiving P C d stream frames part) {i : ℕ} {op next : ReadOp}
    (hop : c.reads[i]? = some op) (hfull : op.got.length = op.need) (hnext : next.got = [])
    (hwrites : c'.writes = c.writes) (hwire : c'.wire = c.wire)
    (hreads : c'.reads = c.reads.eraseIdx i ++ [next]) :
    c'.work + 2 * c'.wireBytes.length < c.work + 2 * c.wireBytes.length := by
  obtain ⟨hone, rfl, hread⟩ := h.reads_eq hop
  have hneed := (hread.got_le hone).2
  simp only [work, unsent, wireBytes, hwrites, hwire, hreads, hone, hnext, List.eraseIdx_cons_zero,
    List.nil_append, List.map_cons, List.map_nil, List.sum_cons, List.sum_nil, List.length_nil]
  omega

/-- Every step of a working connection makes the work smaller, apart from bytes that arrive. -/
lemma Flows.work_lt {contains : List UInt8 → Bool} {c c' : Conn QString Ctx} {ev : SocketEvent}
    {effs : List (Effect (List UInt8) QString)} (h : c.Flows) (ht : c.Talking) {d : Ctx}
    {stream part : List UInt8} {frames : List (List UInt8)}
    (hr : c.Receiving P C d stream frames part) (hs : Step P contains c ev c' effs)
    (hworks : Link.works ev = true) :
    c'.work + 2 * c'.wireBytes.length <
      c.work + 2 * c.wireBytes.length + 2 * (Link.arrived ev).length := by
  cases hs with
  | connectOk _ _ => cases hworks
  | connectDone _ _ => cases hworks
  | connectAborted _ _ => cases hworks
  | connectFail _ => cases hworks
  | writeFail _ _ => cases hworks
  | readFail _ _ => cases hworks
  | startWrite _ => cases hworks
  | @writeSome i n op hop _ hpos hlen =>
    have hne : op.data ≠ [] := List.ne_nil_of_length_pos (by omega)
    obtain ⟨hunsent, hunsent'⟩ := h.inOrder.unsent_set hop hne { op with data := op.data.drop n }
    rw [Conn.unsent] at hunsent
    simp only [work, unsent, hunsent, hunsent', wireBytes, Link.arrived, List.length_set,
      List.length_map, List.length_append, List.length_take, List.length_drop, List.length_nil]
    omega
  | requestDone hop =>
    have hnone := ht.writes _ (List.mem_of_getElem? hop)
    simp at hnone
  | @writeDone i op hop hd _ =>
    have hi := (List.getElem?_eq_some_iff.mp hop).1
    simp only [work, unsent, wireBytes, flatMap_eraseIdx_of_nil hop hd,
      List.length_eraseIdx_of_lt hi, Link.arrived, List.length_nil]
    omega
  | @readSome i bytes op hop _ hne _ =>
    obtain ⟨hreads, rfl, _⟩ := hr.reads_eq hop
    have hpos := List.length_pos_of_ne_nil hne
    simp only [work, unsent, wireBytes, hreads, List.set_cons_zero, List.map_cons, List.map_nil,
      List.sum_cons, List.sum_nil, List.length_append, Link.arrived]
    omega
  | unlisted hop _ hh _ => exact absurd hh (ht.reads _ (List.mem_of_getElem? hop))
  | badSignature hop _ hh _ _ => exact absurd hh (ht.reads _ (List.mem_of_getElem? hop))
  | noSharedKey hop _ hh _ _ _ => exact absurd hh (ht.reads _ (List.mem_of_getElem? hop))
  | finished hop _ hh _ _ _ => exact absurd hh (ht.reads _ (List.mem_of_getElem? hop))
  | headDone hop hfull _ => exact hr.work_readDone hop hfull rfl rfl rfl rfl
  | bodyDone hop hfull _ _ => exact hr.work_readDone hop hfull rfl rfl rfl rfl
  | bodySkipped hop hfull _ _ => exact hr.work_readDone hop hfull rfl rfl rfl rfl

end Conn

namespace Link

lemma other_ne (side : Side) : side.other ≠ side := by
  cases side <;> decide

lemma other_other (side : Side) : side.other.other = side := by
  cases side <;> rfl

/-- The state of a link on which nothing has failed and whose reads are fed by the other side. -/
structure Flows (l : Link QString Ctx) : Prop where
  conn : ∀ side, (l.conn side).Flows
  arrived : ∀ side, l.received side <+: (l.conn side.other).wireBytes

lemma Flows.start (a b : ChatSession (List UInt8) QString Ctx) : (Link.start P a b).Flows := by
  refine ⟨?_, fun side => List.nil_prefix⟩
  rintro (_ | _)
  · exact Conn.Flows.established a
  · exact Conn.Flows.established b

lemma Flows.moves {W : WriteCall → Prop} {l l' : Link QString Ctx} {ev : LinkEvent QString}
    (h : l.Flows) (htalking : ∀ side, (l.conn side).Talking) (hs : Moves P W l ev l')
    (hreliable : l.Reliable ev) : l'.Flows := by
  have hsides := hs.sides (Q := fun c _ _ _ => c.Flows) h.conn ?_ ?_
  · refine ⟨hsides, fun side => ?_⟩
    cases hs with
    | @write call texts _ _ =>
      have hwire : ((l.write P call).conn side.other).wireBytes =
          (l.conn side.other).wireBytes := by
        by_cases heq : side.other = call.side
        · simp only [write, heq, Function.update_self]
          rfl
        · simp only [write, Function.update_of_ne heq]
      exact hwire ▸ h.arrived side
    | @socket side' sev c effs hev hconn =>
      subst hev
      by_cases heq : side = side'
      · subst heq
        simp only [Function.update_self, Function.update_of_ne (other_ne side)]
        exact hreliable.2
      · have hother : side.other = side' := by
          cases side <;> cases side' <;> first | rfl | exact absurd rfl heq
        simp only [Function.update_of_ne heq, hother, Function.update_self]
        exact (hother ▸ h.arrived side).trans hconn.wireBytes_grows
  · intro call _ hidle
    exact (h.conn call.side).writeMsg (htalking call.side) (hidle hreliable) _ _
  · intro side sev c effs hev hconn
    subst hev
    exact (h.conn side).step (htalking side) hconn hreliable.1

lemma Flows.frames {ctx : Ctx} {l : Link QString Ctx} (h : l.Flows) {side : Side}
    (htalking : (l.conn side.other).Talking)
    (hsent : ∀ f ∈ (l.conn side.other).encrypted, msgFraming.IsFrame f)
    {frames : List (List UInt8)} {part : List UInt8}
    (hr : (l.conn side).Receiving P C ctx (l.received side) frames part) :
    frames <+: (l.conn side.other).encrypted := by
  have hwire := (h.conn side.other).wire htalking
  have hpre : frames.flatten ++ part <+: (l.conn side.other).encrypted.flatten := by
    rw [← hr.cut, ← hwire]
    exact (h.arrived side).trans (List.prefix_append _ _)
  obtain ⟨rest, hrest, _⟩ :=
    Framing.prefix_of_flatten hr.isFrame hsent hpre
  exact ⟨rest, hrest.symm⟩

lemma Flows.handled {ctx : Ctx} {l : Link QString Ctx} (h : l.Flows)
    (hagrees : l.Agrees P C ctx) (side : Side) :
    (l.conn side).handled.length ≤ (l.sent side.other).length ∧
      (l.conn side).handled = ((l.sent side.other).take (l.conn side).handled.length).map
        (frameBuffer ∘ msgFrame) ∧
      (l.conn side).sess.chachaDctx =
        C.after ctx ((C.outputs ctx (l.sent side.other)).take (l.conn side).handled.length) := by
  obtain ⟨frames, part, hr⟩ := hagrees.receiving side
  have hframes := h.frames (hagrees.talking side.other) (hagrees.sending side.other).isFrame hr
  rw [(hagrees.sending side.other).encrypted] at hframes
  obtain ⟨hle, hhandled, hcontext⟩ := hr.of_prefix hframes
  rw [C.length_outputs] at hle
  rw [C.outputs_outputs] at hhandled
  exact ⟨hle, hhandled, hcontext⟩

lemma Flows.delivered {ctx : Ctx} {l : Link QString Ctx} (h : l.Flows)
    (hagrees : l.Agrees P C ctx) (side : Side) :
    (l.conn side).handled.length ≤ (l.sent side.other).length ∧
      (l.conn side).payloads = (l.sent side.other).take (l.conn side).handled.length ∧
      (l.positions side.other)[(l.conn side).handled.length]? =
        some (l.conn side).sess.chachaDctx := by
  have hsend := hagrees.sending side.other
  obtain ⟨hle, hhandled, hcontext⟩ := h.handled hagrees side
  refine ⟨hle, ?_, ?_⟩
  · rw [Conn.payloads]
    conv_lhs => rw [hhandled]
    rw [List.map_map]
    refine (List.map_congr_left fun payload hmem => ?_).trans (List.map_id _)
    have hshort := hsend.short payload (List.mem_of_mem_take hmem)
    exact msgPayload_frameBuffer (by omega)
  · rw [hagrees.positions, C.getElem?_contexts ctx _ hle, hcontext, ← C.outputs_take]
    congr 1
    exact C.after_congr ctx (C.map_length_outputs ctx _).symm

lemma Settled.react_eq_none {l : Link QString Ctx} (h : l.Settled P) {side : Side}
    (ev : SocketEvent) (hworks : works ev = true)
    (hfifo : l.received side ++ arrived ev <+: (l.conn side.other).wireBytes) :
    (l.conn side).react P (fun _ => false) ev = none :=
  Option.map_eq_none_iff.mp (h side ev ⟨hworks, hfifo⟩)

lemma Settled.writes {l : Link QString Ctx} (h : l.Settled P) (hflows : l.Flows) (side : Side) :
    (l.conn side).writes = [] := by
  have hfifo : l.received side ++ [] <+: (l.conn side.other).wireBytes := by
    rw [List.append_nil]
    exact hflows.arrived side
  cases hw : (l.conn side).writes with
  | nil => rfl
  | cons op rest =>
    have hop : (l.conn side).writes[0]? = some op := by rw [hw, List.getElem?_cons_zero]
    by_cases hd : op.data = []
    · have hnone := h.react_eq_none (.writeDone 0) rfl hfifo
      simp [Conn.react, hop, hd] at hnone
    · have hnone := h.react_eq_none (.writeSome 0 1) rfl hfifo
      simp [Conn.react, hop, (hflows.conn side).isOpen] at hnone
      exact absurd hnone hd

lemma Settled.reads {l : Link QString Ctx} (h : l.Settled P) (hflows : l.Flows) {side : Side}
    {op : ReadOp} (hreads : (l.conn side).reads = [op]) (hle : op.got.length ≤ op.need) :
    op.got.length < op.need ∧ l.received side = (l.conn side.other).wireBytes := by
  have hop : (l.conn side).reads[0]? = some op := by rw [hreads, List.getElem?_cons_zero]
  have hlt : op.got.length < op.need := by
    refine Nat.lt_of_le_of_ne hle (fun hfull => ?_)
    have hfifo : l.received side ++ [] <+: (l.conn side.other).wireBytes := by
      rw [List.append_nil]
      exact hflows.arrived side
    have hnone := h.react_eq_none (.readDone 0) rfl hfifo
    simp [Conn.react, hop, hfull] at hnone
  refine ⟨hlt, ?_⟩
  obtain ⟨rest, hrest⟩ := hflows.arrived side
  cases rest with
  | nil => rw [← hrest, List.append_nil]
  | cons b rest =>
    have hfifo : l.received side ++ [b] <+: (l.conn side.other).wireBytes :=
      ⟨rest, by rw [← hrest, List.append_assoc, List.singleton_append]⟩
    have hnone := h.react_eq_none (.readSome 0 [b]) rfl hfifo
    simp [Conn.react, hop, (hflows.conn side).isOpen] at hnone
    omega

lemma Flows.complete {ctx : Ctx} {l : Link QString Ctx} (h : l.Flows)
    (hagrees : l.Agrees P C ctx) (hsettled : l.Settled P) (side : Side) :
    (l.conn side).payloads = l.sent side.other := by
  obtain ⟨hle, hpayloads, _⟩ := h.delivered hagrees side
  obtain ⟨frames, part, hr⟩ := hagrees.receiving side
  have hsend := hagrees.sending side.other
  have hread : (l.conn side).Reading part := by
    rcases hr.reading with hread | ⟨_, herr⟩
    · exact hread
    · rw [(h.conn side).errors] at herr
      cases herr
  obtain ⟨op, hreads⟩ : ∃ op, (l.conn side).reads = [op] := by
    rcases hread with ⟨_, hreads⟩ | ⟨_, _, _, _, _, hreads⟩
    · exact ⟨_, hreads⟩
    · exact ⟨_, hreads⟩
  obtain ⟨hlt, hreceived⟩ := hsettled.reads h hreads (hread.got_le hreads).1
  have hwire := (h.conn side.other).wire (hagrees.talking side.other)
  rw [Conn.unsent, hsettled.writes h side.other, List.flatMap_nil, List.append_nil, ← hreceived,
    hr.cut] at hwire
  have hframes : frames = (l.conn side.other).encrypted :=
    Framing.eq_of_flatten hr.isFrame hsend.isFrame hwire
      (fun f hf => hread.incomplete hreads hlt hf)
  have hcount : (l.conn side).handled.length = frames.length := by
    rw [hr.handled, length_receiveFrames]
  have hall : (l.sent side.other).length ≤ (l.conn side).handled.length := by
    rw [hcount, hframes, hsend.encrypted, List.length_map, C.length_outputs]
  rw [hpayloads, List.take_of_length_le hall]

/-- Sockets that have written everything, and read everything that was written, are at rest. -/
lemma settled_of_quiet {l : Link QString Ctx} (hwrites : ∀ side, (l.conn side).writes = [])
    (hreads : ∀ side, ∀ op ∈ (l.conn side).reads, op.got.length < op.need)
    (hreceived : ∀ side, l.received side = (l.conn side.other).wireBytes) : l.Settled P := by
  intro side ev hreliable
  obtain ⟨hworks, hfifo⟩ := hreliable
  rw [hreceived side] at hfifo
  cases ev with
  | writeSome i n => simp [step, Conn.react, hwrites side]
  | writeDone i => simp [step, Conn.react, hwrites side]
  | readSome i bytes =>
    have hlen := hfifo.length_le
    have hnil : bytes = [] := by
      simpa [arrived] using hlen
    simp [step, Conn.react, hnil]
  | readDone i =>
    cases hop : (l.conn side).reads[i]? with
    | none => simp [step, Conn.react, hop]
    | some op =>
      have hlt := hreads side op (List.mem_of_getElem? hop)
      have hne : op.got.length ≠ op.need := by omega
      simp [step, Conn.react, hop, hne]
  | _ => cases hworks

/-- What the sockets still have to do. -/
def work (l : Link QString Ctx) : ℕ :=
  (l.conn .near).work + (l.conn .far).work +
    2 * ((l.conn .far).wireBytes.length - (l.received .near).length) +
    2 * ((l.conn .near).wireBytes.length - (l.received .far).length)

lemma Flows.work_lt {ctx : Ctx} {l l' : Link QString Ctx} (h : l.Flows)
    (hagrees : l.Agrees P C ctx) {side : Side} {ev : SocketEvent}
    (hreliable : l.Reliable (.socket side ev)) (hs : l.step P (.socket side ev) = some l') :
    l'.work < l.work := by
  obtain ⟨hworks, hfifo⟩ := hreliable
  obtain ⟨⟨c, effs⟩, hreact, rfl⟩ := Option.map_eq_some_iff.mp hs
  obtain ⟨frames, part, hr⟩ := hagrees.receiving side
  have hlt := (h.conn side).work_lt (hagrees.talking side) hr (Conn.react_step P hreact) hworks
  have hgrows := (Conn.react_step P hreact).wireBytes_grows.length_le
  have harrived := hfifo.length_le
  have hother := (h.arrived side.other).length_le
  rw [List.length_append] at harrived
  rw [other_other] at hother
  cases side with
  | near =>
    have hfar : Side.near.other = .far := rfl
    rw [hfar] at harrived hother
    have hne : Side.far ≠ .near := by decide
    simp only [work, Function.update_self, Function.update_of_ne hne, List.length_append]
    omega
  | far =>
    have hnear : Side.far.other = .near := rfl
    rw [hnear] at harrived hother
    have hne : Side.near ≠ .far := by decide
    simp only [work, Function.update_self, Function.update_of_ne hne, List.length_append]
    omega

instance (l : Link QString Ctx) : (ev : LinkEvent QString) → Decidable (l.Reliable ev)
  | .writeMsg call => inferInstanceAs (Decidable (l.Transferred call.side))
  | .sendTextMsg side _ => inferInstanceAs (Decidable (l.Transferred side))
  | .socket side ev =>
    inferInstanceAs (Decidable (works ev = true ∧
      l.received side ++ arrived ev <+: (l.conn side.other).wireBytes))

lemma flows (q : Qt (List UInt8) QString) (k : Curve)
    {a b : ChatSession (List UInt8) QString ChachaContext} (hkey : a.chacha20Key = b.chacha20Key)
    {es : List (LinkEvent QString)} {l : Link QString ChachaContext}
    (h : Run (Guarded (StepOf (Link.step (bytePrimitives q k mbedtlsChacha20))) Link.Reliable)
      (Link.start (bytePrimitives q k mbedtlsChacha20) a b) es l) : l.Flows := by
  refine h.invariant_history (I := fun _ l => l.Flows) (Flows.start a b) ?_
  intro es l ev l' hrun hflows hs
  exact hflows.moves (agrees q k hkey hrun.of_guarded).talking (step_step hs.1).moves hs.2

/-- Whatever way a reliable stream is cut, the payloads that a side has read are the first ones
that the other side has sent, and its decrypt context stands where the encrypt context of the other
side stood after the last of them. The sockets come to an end, and then all payloads have been
read. -/
theorem payloads_delivered (q : Qt (List UInt8) QString) (k : Curve)
    {a b : ChatSession (List UInt8) QString ChachaContext} (hkey : a.chacha20Key = b.chacha20Key)
    {es : List (LinkEvent QString)} {l : Link QString ChachaContext}
    (h : Run (Guarded (StepOf (Link.step (bytePrimitives q k mbedtlsChacha20))) Link.Reliable)
      (Link.start (bytePrimitives q k mbedtlsChacha20) a b) es l) (side : Side) :
    (l.conn side).payloads <+: l.sent side.other ∧
    (l.positions side.other)[(l.conn side).payloads.length]? =
      some (l.conn side).sess.chachaDctx ∧
    (∀ side' ev l', l.Reliable (.socket side' ev) →
      l.step (bytePrimitives q k mbedtlsChacha20) (.socket side' ev) = some l' →
      l'.work < l.work) ∧
    (l.Settled (bytePrimitives q k mbedtlsChacha20) →
      (l.conn side).payloads = l.sent side.other) := by
  have hagrees := agrees q k hkey h.of_guarded
  have hflows := flows q k hkey h
  obtain ⟨_, hpayloads, hposition⟩ := hflows.delivered hagrees side
  refine ⟨?_, ?_, ?_, fun hsettled => hflows.complete hagrees hsettled side⟩
  · rw [hpayloads]
    exact List.take_prefix _ _
  · rw [Conn.payloads, List.length_map]
    exact hposition
  · intro side' ev l' hreliable hs
    exact hflows.work_lt hagrees hreliable hs

/-- Two frames, the second one empty, cut in the middle of the header and of the payload. -/
theorem payloads_delivered_two_frames :
    ∃ (es : List (LinkEvent (List UInt8))) (l : Link (List UInt8) ChachaContext),
      Run (Guarded (StepOf (Link.step samplePrimitives)) Link.Reliable)
        (Link.start samplePrimitives sampleClientDone.beforeInit sampleServerDone.beforeInit) es l ∧
      (l.conn .far).payloads <+: l.sent .near ∧
      (l.positions .near)[2]? = some (l.conn .far).sess.chachaDctx ∧
      (l.conn .far).payloads = [[104, 105], []] := by
  let test (l : Link (List UInt8) ChachaContext) : Bool :=
    decide ((l.conn .far).payloads = [[104, 105], []])
  obtain ⟨l, hrun, hp⟩ := exists_guarded_run_of_exec (Link.step samplePrimitives) Link.Reliable
    [.writeMsg ⟨.near, [0, 0, 1, 0, 104, 105], 2⟩, .socket .near (.writeSome 0 6),
      .writeMsg ⟨.near, [0, 0, 1, 0], 0⟩, .socket .near (.writeDone 0),
      .socket .far (.readSome 0 [2]), .socket .near (.writeSome 0 4),
      .socket .far (.readSome 0 [0]), .socket .far (.readDone 0),
      .socket .far (.readSome 0 [1, 0, 1]), .socket .far (.readSome 0 [89]),
      .socket .far (.readDone 0), .socket .far (.readSome 0 [0, 0]), .socket .far (.readDone 0),
      .socket .far (.readSome 0 [1, 0]), .socket .far (.readDone 0)]
    test (s := Link.start samplePrimitives sampleClientDone.beforeInit sampleServerDone.beforeInit)
    (by decide +kernel)
  have hpayloads : (l.conn .far).payloads = [[104, 105], []] := of_decide_eq_true hp
  obtain ⟨hpre, hposition, _⟩ := payloads_delivered sampleQt sampleCurve sample_keys_agree hrun .far
  rw [hpayloads] at hposition
  exact ⟨_, l, hrun, hpre, hposition, hpayloads⟩

end Link

end Enchat
