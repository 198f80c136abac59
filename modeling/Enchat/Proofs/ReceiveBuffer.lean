import Enchat.Proofs.FrameReader

/-!
# The bounds of the receive buffer

`startRead` allocates 4096 bytes. The size field of a frame may announce any number of bytes, and
nothing compares it with the size of the buffer.
-/

namespace Enchat
open Buffer Transition ListUpdate

variable {QString Ctx : Type} (P : Primitives (List UInt8) QString Ctx) (C : StreamCipher Ctx)

namespace Conn

/-- The offsets in the buffer of `startRead` at which the completion handler of a read lets bytes be
stored, decrypts them or looks for the terminating NUL. -/
def touched (c : Conn QString Ctx) (op : ReadOp) : List ℕ :=
  match op.handler with
  | .onHandShake => []
  | .handleReadMsgHead => List.range' 2 (getU16 op.buffer 0 + 2)
  | .handleReadMsg =>
    if getU16 op.buffer 2 = 1 then
      List.range' 4 (getU16 op.buffer 0) ++
        List.range' 4 ((cString ((c.sess.handleReadMsg P false op.buffer).2.1.drop 4)).length + 1)
    else []

/-- A header announces at most 4092 bytes, and a payload of protocol 1 leaves room for a NUL or
decrypts to one that contains a NUL. -/
def Fits (c : Conn QString Ctx) (op : ReadOp) : Prop :=
  match op.handler with
  | .onHandShake => True
  | .handleReadMsgHead => getU16 op.buffer 0 ≤ 4092
  | .handleReadMsg => getU16 op.buffer 2 = 1 → getU16 op.buffer 0 ≤ 4091 ∨
      (getU16 op.buffer 0 = 4092 ∧
        ∃ i : ℕ, (op.buffer.drop 4)[i]? = some (C.stream c.sess.chachaDctx i))

variable {P C}

/-- The search for the NUL behind a payload of protocol 1. -/
lemma cString_payload {out : List UInt8} (hlen : out.length ≤ 4092) :
    4 + ((cString ((frameBuffer (msgFrame out)).drop 4)).length + 1) ≤ 4096 ↔
      out.length ≤ 4091 ∨ 0 ∈ out := by
  rw [drop_frameBuffer]
  by_cases hroom : out.length ≤ 4091
  · have hle := length_cString_le out
    rw [zeros_behind hroom, cString_append_zero]
    constructor
    · exact fun _ => Or.inl hroom
    · intro _
      omega
  · have hfull : out.length = 4092 := by omega
    have hnil : (List.replicate 4096 (0 : UInt8)).drop (out.length + 4) = [] :=
      List.drop_of_length_le (by rw [List.length_replicate, hfull])
    have hlt := length_cString_lt_iff out
    rw [hnil, List.append_nil, or_iff_right hroom, ← hlt]
    omega

/-- The completion handler of a read runs when all its bytes have arrived. -/
lemma Step.full_of_readDone {contains : List UInt8 → Bool} {c c' : Conn QString Ctx} {i : ℕ}
    {effs : List (Effect (List UInt8) QString)} (hs : Step P contains c (.readDone i) c' effs)
    {op : ReadOp} (hop : c.reads[i]? = some op) : op.got.length = op.need := by
  have hsame : ∀ {op' : ReadOp}, c.reads[i]? = some op' → op'.got.length = op'.need →
      op.got.length = op.need := by
    intro op' hop' hfull
    obtain rfl := Option.some.inj (hop.symm.trans hop')
    exact hfull
  cases hs with
  | unlisted hop' hf _ _ => exact hsame hop' hf
  | badSignature hop' hf _ _ _ => exact hsame hop' hf
  | noSharedKey hop' hf _ _ _ _ => exact hsame hop' hf
  | finished hop' hf _ _ _ _ => exact hsame hop' hf
  | headDone hop' hf _ => exact hsame hop' hf
  | bodyDone hop' hf _ _ => exact hsame hop' hf
  | bodySkipped hop' hf _ _ => exact hsame hop' hf

/-- A frame whose last bytes have arrived is the buffer of its read. -/
lemma Reader.body_frame {c : Conn QString Ctx} {hello part : List UInt8}
    {frames : List (List UInt8)} (h : c.Reader P C hello frames part) {i : ℕ} {op : ReadOp}
    (hop : c.reads[i]? = some op) (hfull : op.got.length = op.need)
    (hh : op.handler = .handleReadMsg) :
    msgFraming.IsFrame part ∧ op.buffer = frameBuffer part := by
  cases h with
  | idle hnone _ _ _ _ => simp [hnone] at hop
  | packet hone _ _ =>
    rw [hone] at hop
    obtain rfl := List.mem_singleton.mp (List.mem_of_getElem? hop)
    cases hh
  | loop _ _ hr _ =>
    obtain ⟨hreads, _, hread⟩ := hr.reads_eq hop
    exact hread.body_buffer hreads hfull hh

/-- The accesses of the handler of a frame read stay inside the buffer if and only if the frame
fits. -/
lemma Reader.touched_iff (hC : P.mbedtlsChacha20Update = C.update) {c : Conn QString Ctx}
    {hello part : List UInt8} {frames : List (List UInt8)} (h : c.Reader P C hello frames part)
    {i : ℕ} {op : ReadOp} (hop : c.reads[i]? = some op) (hfull : op.got.length = op.need) :
    (∀ a ∈ c.touched P op, a < 4096) ↔ c.Fits C op := by
  cases hh : op.handler with
  | onHandShake => simp [touched, Fits, hh]
  | handleReadMsgHead =>
    simp only [touched, Fits, hh]
    rw [forall_range'_lt_iff (by omega)]
    omega
  | handleReadMsg =>
    by_cases hprotocol : getU16 op.buffer 2 = 1
    · obtain ⟨hframe, hbuf⟩ := h.body_frame hop hfull hh
      have hlen : part.length = getU16 part 0 + 4 := hframe
      have hsize : getU16 (frameBuffer part) 0 = getU16 part 0 := getU16_frameBuffer (by omega)
      have hone : getU16 part 2 = 1 := by
        rw [← getU16_frameBuffer (f := part) (by omega), ← hbuf]
        exact hprotocol
      have hmsg := eq_msgFrame hframe hone
      have hout : (c.sess.handleReadMsg P false (frameBuffer part)).2.1 =
          frameBuffer (msgFrame (C.update c.sess.chachaDctx (part.drop 4)).2) := by
        have hreceive := receiveFrame_msgFrame (C := C) c.sess.chachaDctx (part.drop 4)
        rw [← hmsg] at hreceive
        rw [(handleReadMsg_frameBuffer hC c.sess hframe).2, hreceive]
      have hcount : (C.update c.sess.chachaDctx (part.drop 4)).2.length = getU16 part 0 := by
        rw [C.length_update, List.length_drop]
        omega
      have hzero : 0 ∈ (C.update c.sess.chachaDctx (part.drop 4)).2 ↔
          ∃ i : ℕ, (part.drop 4)[i]? = some (C.stream c.sess.chachaDctx i) := by
        rw [C.output, zero_mem_xorStream_iff]
      simp only [touched, Fits, hh, hprotocol, if_true, List.forall_mem_append, true_implies]
      rw [forall_range'_lt_iff (by omega), forall_range'_lt_iff (by omega), hbuf, hsize, hout]
      by_cases hfits : getU16 part 0 ≤ 4092
      · have hbuffer : getU16 part 0 = 4092 → frameBuffer part = part := by
          intro heq
          rw [frameBuffer_eq, List.drop_of_length_le (by rw [List.length_replicate]; omega),
            List.append_nil]
        rw [cString_payload (by omega), hcount, hzero]
        constructor
        · rintro ⟨_, hroom | hnul⟩
          · exact Or.inl hroom
          · by_cases heq : getU16 part 0 = 4092
            · exact Or.inr ⟨heq, by rwa [hbuffer heq]⟩
            · exact Or.inl (by omega)
        · rintro (hroom | ⟨heq, hnul⟩)
          · exact ⟨by omega, Or.inl hroom⟩
          · exact ⟨by omega, Or.inr (by rwa [hbuffer heq] at hnul)⟩
      · -- the decryption alone leaves the buffer
        constructor
        · intro h
          omega
        · rintro (hroom | ⟨heq, _⟩) <;> omega
    · simp [touched, Fits, hh, hprotocol]

end Conn

namespace Endpoint

/-- The handler of the step accesses the receive buffer inside its bounds only. -/
def ReceivesInBounds (P : Primitives (List UInt8) QString Ctx) (e : Endpoint QString Ctx) :
    Event QString Ctx → Prop
  | .socket s (.readDone i) => ∀ c ∈ e.sessions[s]?, ∀ op ∈ c.reads[i]?,
      ∀ a ∈ c.touched P op, a < 4096
  | _ => True

/-- The header or the frame that the step handles fits into the receive buffer. -/
def ReceivesFitting (C : StreamCipher Ctx) (e : Endpoint QString Ctx) : Event QString Ctx → Prop
  | .socket s (.readDone i) => ∀ c ∈ e.sessions[s]?, ∀ op ∈ c.reads[i]?, c.Fits C op
  | _ => True

variable [DecidableEq QString]

/-- In every state that a run can reach, the next step stays inside the buffer if and only if what
it handles fits. -/
lemma receivesInBounds_iff (hC : P.mbedtlsChacha20Update = C.update) {role : Role} {name : QString}
    {es : List (Event QString Ctx)} {e e' : Endpoint QString Ctx} {ev : Event QString Ctx}
    (h : Runs P role name es e) (hs : e.step P ev = some e') :
    e.ReceivesInBounds P ev ↔ e.ReceivesFitting C ev := by
  cases step_step P hs with
  | @socket s sev c c' effs hc hconn =>
    cases sev with
    | readDone i =>
      obtain ⟨⟨hello, frames, part, hreader, _⟩, _⟩ := readsInOrder hC h hc
      unfold ReceivesInBounds ReceivesFitting
      simp only [hc, Option.mem_some_iff, forall_eq']
      apply forall_congr'
      intro op
      apply forall_congr'
      intro hop
      exact hreader.touched_iff hC hop (hconn.full_of_readDone hop)
    | _ => exact Iff.rfl
  | _ => exact Iff.rfl

/-- In a run of a server or a client all accesses to receive buffers are inside the bounds if and
only if every header announces at most 4092 bytes and every payload of protocol 1 has at most 4091
bytes, or has 4092 and decrypts to a text that contains a NUL. -/
theorem receive_in_bounds_iff (q : Qt (List UInt8) QString) (k : Curve) (role : Role)
    (name : QString) (es : List (Event QString ChachaContext))
    (e : Endpoint QString ChachaContext) :
    GuardedRuns (bytePrimitives q k mbedtlsChacha20)
        (ReceivesInBounds (bytePrimitives q k mbedtlsChacha20)) role name es e ↔
      GuardedRuns (bytePrimitives q k mbedtlsChacha20) (ReceivesFitting chacha20Cipher) role name
        es e := by
  have hstep : ∀ es e ev e', Runs (bytePrimitives q k mbedtlsChacha20) role name es e →
      StepOf (step (bytePrimitives q k mbedtlsChacha20)) e ev e' →
      (e.ReceivesInBounds (bytePrimitives q k mbedtlsChacha20) ev ↔
        e.ReceivesFitting chacha20Cipher ev) :=
    fun _ _ _ _ hr hs => receivesInBounds_iff _ chacha20Cipher rfl hr hs
  constructor
  · exact Run.guarded_imp (fun es e ev e' hr hs => (hstep es e ev e' hr hs).mp)
  · exact Run.guarded_imp (fun es e ev e' hr hs => (hstep es e ev e' hr hs).mpr)

/-- A listed client finishes the handshake and announces 4093 bytes. The handler of the header asks
for one byte behind the buffer. -/
theorem size_4093_overruns :
    ∃ (es : List (Event (List UInt8) ChachaContext)) (e e' : Endpoint (List UInt8) ChachaContext),
      Runs samplePrimitives .chatServer [] es e ∧
      e.step samplePrimitives (.socket 0 (.readDone 0)) = some e' ∧
      ¬e.ReceivesInBounds samplePrimitives (.socket 0 (.readDone 0)) := by
  let test (e : Endpoint (List UInt8) ChachaContext) : Bool :=
    (e.step samplePrimitives (.socket 0 (.readDone 0))).isSome &&
      (e.sessions[0]?).any fun c => (c.reads[0]?).any fun op =>
        op.handler = .handleReadMsgHead && getU16 op.buffer 0 = 4093
  obtain ⟨e, hrun, htest⟩ := exists_run_of_exec (Endpoint.step samplePrimitives)
    [.updatePeerList [⟨[], sampleKey 7, [], 0⟩],
      .accept (sampleKey 3) sampleContext sampleContext,
      .socket 0 (.readSome 0 (sampleHello 1 7 5).pack), .socket 0 (.readDone 0),
      .socket 0 (.readSome 0 [0xFD, 0x0F])]
    test (s := Endpoint.init .chatServer []) (by decide +kernel)
  obtain ⟨hstep, hread⟩ := Bool.and_eq_true_iff.mp htest
  obtain ⟨e', hs⟩ := Option.isSome_iff_exists.mp hstep
  obtain ⟨c, hc, hread⟩ := (Option.any_eq_true _ _).mp hread
  obtain ⟨op, hop, hread⟩ := (Option.any_eq_true _ _).mp hread
  simp only [Bool.and_eq_true, decide_eq_true_eq] at hread
  refine ⟨_, e, e', hrun, hs, ?_⟩
  intro hbounds
  have hlast := hbounds c hc op hop 4096
  simp only [Conn.touched, hread.1, hread.2, List.mem_range'_1] at hlast
  omega

end Endpoint

end Enchat
