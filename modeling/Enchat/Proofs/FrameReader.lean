import Enchat.Proofs.LinkRun
import Enchat.Proofs.OneReader

/-!
# The frame reader as a function of the bytes

When the read loop has ended, the texts that it has handed over are those that a recursive parser
finds in the received bytes, whatever the cuts were. The loop takes a bounded number of steps for
each byte and can always take another one until it has ended.
-/

namespace Enchat
open Buffer Transition ListUpdate

variable {QString Ctx : Type} {P : Primitives (List UInt8) QString Ctx} {C : StreamCipher Ctx}

/-- The texts in a list of frames. Each payload of protocol 1 takes its part of the keystream, and
other frames take none. -/
def frameTexts (fromUtf8 : List UInt8 → QString) (ks : ℕ → UInt8) : List (List UInt8) → List QString
  | [] => []
  | f :: fs =>
    if getU16 f 2 = 1 then
      fromUtf8 (cString (xorStream ks (f.drop 4))) ::
        frameTexts fromUtf8 (fun i => ks ((f.drop 4).length + i)) fs
    else frameTexts fromUtf8 ks fs

/-- A frame of protocol 1 is determined by its payload. -/
lemma eq_msgFrame {f : List UInt8} (hf : msgFraming.IsFrame f) (hprotocol : getU16 f 2 = 1) :
    f = msgFrame (f.drop 4) := by
  have hlen : f.length = getU16 f 0 + 4 := hf
  have hsize : getU16 f 0 = (UInt16.ofNat (f.drop 4).length).toNat := by
    have hlt : getU16 f 0 < 65536 := by
      have h₀ := (f.getD 0 0).toNat_lt
      have h₁ := (f.getD (0 + 1) 0).toNat_lt
      simp only [getU16]
      omega
    rw [List.length_drop, UInt16.toNat_ofNat_of_lt' (show f.length - 4 < 65536 by omega)]
    omega
  have hfirst : (f.drop 0).take 2 = putU16 (UInt16.ofNat (f.drop 4).length) :=
    take_drop_of_getU16 hsize (by omega)
  have hsecond : (f.drop 2).take 2 = putU16 1 := take_drop_of_getU16 hprotocol (by omega)
  have hsplit : f = f.take 2 ++ ((f.drop 2).take 2 ++ (f.drop 2).drop 2) := by
    rw [List.take_append_drop, List.take_append_drop]
  rw [List.drop_zero] at hfirst
  rw [hfirst, hsecond, List.drop_drop] at hsplit
  rw [msgFrame, List.append_assoc]
  exact hsplit

/-- The buffers of frames that fit hold the texts of these frames. -/
lemma filterMap_receiveFrames (d : Ctx) {frames : List (List UInt8)}
    (hframes : ∀ f ∈ frames, msgFraming.IsFrame f) (hsize : ∀ f ∈ frames, getU16 f 0 ≤ 4091) :
    (receiveFrames C d frames).2.filterMap (msgText P) =
      frameTexts P.fromUtf8 (C.stream d) frames := by
  induction frames generalizing d with
  | nil => rfl
  | cons f fs ih =>
    have hf := hframes f (by simp)
    have hlen : f.length = getU16 f 0 + 4 := hf
    have hle := hsize f (by simp)
    have hrest := fun d => ih d (fun f hmem => hframes f (by simp [hmem]))
      (fun f hmem => hsize f (by simp [hmem]))
    by_cases hprotocol : getU16 f 2 = 1
    · have hreceive := receiveFrame_msgFrame (C := C) d (f.drop 4)
      rw [← eq_msgFrame hf hprotocol] at hreceive
      have hpayload : (C.update d (f.drop 4)).2.length ≤ 4091 := by
        rw [C.length_update, List.length_drop]
        omega
      have hstream : C.stream (C.update d (f.drop 4)).1 = fun i => C.stream d ((f.drop 4).length + i) :=
        funext (C.advance d (f.drop 4))
      rw [receiveFrames, hreceive, List.filterMap_cons_some (msgText_frameBuffer hpayload), hrest,
        hstream, C.output, frameTexts, if_pos hprotocol]
    · have hreceive : receiveFrame C d f = (d, frameBuffer f) := if_neg hprotocol
      have htext : msgText P (frameBuffer f) = none := by
        rw [msgText, getU16_frameBuffer (by omega), if_neg hprotocol]
      rw [receiveFrames, hreceive, List.filterMap_cons_none htext, hrest, frameTexts,
        if_neg hprotocol]

/-- An upper bound for the steps that a frame read can take before the next frame begins, apart from
the arrival of bytes. -/
def ReadOp.work (op : ReadOp) : ℕ :=
  match op.handler with
  | .onHandShake => 0
  | .handleReadMsgHead => 2
  | .handleReadMsg => 1

def SocketEvent.isRead : SocketEvent → Bool
  | .readSome _ _ | .readDone _ | .readFail _ => true
  | _ => false

namespace Conn

def readWork (c : Conn QString Ctx) : ℕ := (c.reads.map ReadOp.work).sum

lemma readWork_eraseIdx {c : Conn QString Ctx} {i : ℕ} {op : ReadOp} (hop : c.reads[i]? = some op) :
    ((c.reads.eraseIdx i).map ReadOp.work).sum + op.work = c.readWork := by
  have hperm := (List.getElem_cons_eraseIdx_perm (List.getElem?_eq_some_iff.mp hop).1).map
    ReadOp.work
  rw [(List.getElem?_eq_some_iff.mp hop).2] at hperm
  rw [readWork, ← hperm.sum_nat, List.map_cons, List.sum_cons, Nat.add_comm]

lemma readWork_set {c : Conn QString Ctx} {i : ℕ} {op op' : ReadOp} (hop : c.reads[i]? = some op)
    (hwork : op'.work = op.work) : ((c.reads.set i op').map ReadOp.work).sum = c.readWork := by
  have hsame : (c.reads.map ReadOp.work)[i]? = some op'.work := by
    rw [List.getElem?_map, hop, hwork]
    rfl
  obtain ⟨hlt, hget⟩ := List.getElem?_eq_some_iff.mp hsame
  rw [readWork, List.map_set, ← hget, List.set_getElem_self]

/-- Each step of a read is paid for by a byte that arrives, by a frame that is handled, by the end
of the handshake or by an operation that is used up. -/
theorem Step.read_steps {contains : List UInt8 → Bool} {c c' : Conn QString Ctx} {ev : SocketEvent}
    {effs : List (Effect (List UInt8) QString)} (hs : Step P contains c ev c' effs) :
    (if ev.isRead then 1 else 0) + c'.opening + c'.readWork + 2 * (c.handled.length + c.finishes) ≤
      (Link.arrived ev).length + c.opening + c.readWork +
        2 * (c'.handled.length + c'.finishes) := by
  have hopening := hs.opening_le
  have hfin := hs.finishes_le
  have hhello : ∀ {i : ℕ} {op : ReadOp}, ev = .readDone i → c.reads[i]? = some op →
      op.handler = .onHandShake → c'.opening + 1 = c.opening := by
    rintro i op rfl hop hh
    exact hs.opening_hello P hop hh
  have hstay : c'.readWork = c.readWork → c'.handled = c.handled → ev.isRead = false →
      (if ev.isRead then 1 else 0) + c'.opening + c'.readWork +
          2 * (c.handled.length + c.finishes) ≤
        (Link.arrived ev).length + c.opening + c.readWork +
          2 * (c'.handled.length + c'.finishes) := by
    intro hwork hhandled hread
    rw [hwork, hhandled, hread]
    simp only [Bool.false_eq_true, if_false]
    omega
  cases hs with
  | requestDone _ => exact hstay (by simp [readWork, ReadOp.work, helloRead]) rfl rfl
  | @readSome i bytes op hop _ hne _ =>
    have hwork := readWork_set hop (show ReadOp.work { op with got := op.got ++ bytes } = _ from rfl)
    have hpos := List.length_pos_iff.mpr hne
    simp only [readWork, SocketEvent.isRead, if_true, Link.arrived] at hwork ⊢
    rw [hwork]
    omega
  | @readFail i op hop _ =>
    have hwork := readWork_eraseIdx hop
    have hcount := countP_eraseIdx_add ReadOp.isHello hop
    simp only [readWork, SocketEvent.isRead, if_true, Link.arrived, List.length_nil, Conn.opening,
      helloReads] at hwork hopening ⊢
    cases hh : op.handler with
    | onHandShake =>
      simp only [ReadOp.isHello, hh, decide_true, if_true] at hcount
      omega
    | _ =>
      simp only [ReadOp.work, hh] at hwork
      omega
  | unlisted hop _ hh _ =>
    have hdone := hhello rfl hop hh
    have hwork := readWork_eraseIdx hop
    simp only [readWork, SocketEvent.isRead, if_true, Link.arrived, List.length_nil] at hwork ⊢
    omega
  | badSignature hop _ hh _ _ =>
    have hdone := hhello rfl hop hh
    have hwork := readWork_eraseIdx hop
    simp only [readWork, SocketEvent.isRead, if_true, Link.arrived, List.length_nil] at hwork ⊢
    omega
  | noSharedKey hop _ hh _ _ _ =>
    have hdone := hhello rfl hop hh
    have hwork := readWork_eraseIdx hop
    simp only [readWork, SocketEvent.isRead, if_true, Link.arrived, List.length_nil] at hwork ⊢
    omega
  | finished hop _ hh _ _ _ =>
    have hdone := hhello rfl hop hh
    have hwork := readWork_eraseIdx hop
    simp only [readWork, finishes, SocketEvent.isRead, if_true, Link.arrived, List.length_nil,
      List.map_append, List.sum_append, List.countP_append] at hwork ⊢
    simp [ReadOp.work, ClientCall.isFinished]
    omega
  | headDone hop _ hh =>
    have hwork := readWork_eraseIdx hop
    simp only [readWork, SocketEvent.isRead, if_true, Link.arrived, List.length_nil,
      List.map_append, List.sum_append, ReadOp.work, hh] at hwork ⊢
    have hnext : ∀ msg, (bodyRead msg).work = 1 := fun _ => rfl
    simp only [List.map_cons, List.map_nil, List.sum_cons, List.sum_nil, hnext]
    omega
  | bodyDone hop _ hh _ =>
    have hwork := readWork_eraseIdx hop
    simp only [readWork, SocketEvent.isRead, if_true, Link.arrived, List.length_nil,
      List.map_append, List.sum_append, List.length_append, ReadOp.work, hh] at hwork ⊢
    simp [ReadOp.work]
    omega
  | bodySkipped hop _ hh _ =>
    have hwork := readWork_eraseIdx hop
    simp only [readWork, SocketEvent.isRead, if_true, Link.arrived, List.length_nil,
      List.map_append, List.sum_append, List.length_append, ReadOp.work, hh] at hwork ⊢
    simp [ReadOp.work]
    omega
  | _ => exact hstay rfl rfl rfl

lemma Reader.length_handled {c : Conn QString Ctx} {hello part : List UInt8}
    {frames : List (List UInt8)} (h : c.Reader P C hello frames part) :
    2 * c.handled.length ≤ frames.flatten.length := by
  cases h with
  | idle _ _ hnil _ _ => simp [hnil]
  | packet _ hnil _ => simp [hnil]
  | loop _ _ hr _ =>
    rw [hr.handled, length_receiveFrames]
    exact Framing.length_le_flatten hr.isFrame

/-- A read that is outstanding can complete, or it can end with an error and, as long as the socket
is open, take any next byte. -/
lemma Reader.progress (contains : List UInt8 → Bool) {c : Conn QString Ctx} {hello part : List UInt8}
    {frames : List (List UInt8)} (h : c.Reader P C hello frames part) (hreads : c.reads ≠ []) :
    (c.react P contains (.readDone 0)).isSome ∨
      (c.react P contains (.readFail 0)).isSome ∧
        (c.isOpen = true → ∀ b, (c.react P contains (.readSome 0 [b])).isSome) := by
  have hone : ∃ op, c.reads = [op] ∧ op.got.length ≤ op.need := by
    cases h with
    | idle hnone _ _ _ _ => exact absurd hnone hreads
    | packet hone _ hle => exact ⟨_, hone, hle⟩
    | loop _ _ hr _ =>
      rcases hr.reading with hread | ⟨hnone, _⟩
      · obtain ⟨op, hone⟩ := hread.exists_read
        exact ⟨op, hone, (hread.got_le hone).1⟩
      · exact absurd hnone hreads
  obtain ⟨op, hone, hle⟩ := hone
  by_cases hfull : op.got.length = op.need
  · exact Or.inl (by simp [react, hone, hfull])
  · have hlt : op.got.length < op.need := by omega
    refine Or.inr ⟨by simp [react, hone, hlt], fun hopen b => ?_⟩
    have hroom : op.got.length + [b].length ≤ op.need := hlt
    simp only [react, hone, List.getElem?_cons_zero, Option.bind_some]
    rw [if_pos ⟨hopen, List.cons_ne_nil b [], hroom⟩]
    rfl

/-- After the handshake nothing but a failed read ends the read loop. -/
lemma Reader.failed_of_ended {c : Conn QString Ctx} {hello part : List UInt8}
    {frames : List (List UInt8)} (h : c.Reader P C hello frames part) (hfin : 0 < c.finishes)
    (hreads : c.reads = []) : .asyncRead ∈ c.errors := by
  cases h with
  | idle _ hzero _ _ _ => omega
  | packet hone _ _ => simp [hone] at hreads
  | loop _ _ hr _ =>
    rcases hr.reading with hread | ⟨_, herror⟩
    · obtain ⟨op, hone⟩ := hread.exists_read
      simp [hone] at hreads
    · exact herror

end Conn

namespace Endpoint

/-- The number of steps that the reads of session `s` have taken. -/
def readSteps (s : ℕ) (es : List (Event QString Ctx)) : ℕ :=
  es.countP fun ev =>
    match ev with
    | .socket t sev => decide (t = s) && sev.isRead
    | _ => false

lemma readSteps_socket (s : ℕ) (es : List (Event QString Ctx)) (sev : SocketEvent) :
    readSteps s (es ++ [.socket s sev]) = readSteps s es + if sev.isRead then 1 else 0 := by
  simp [readSteps, List.countP_singleton]

lemma readSteps_of_ne {s : ℕ} {ev : Event QString Ctx} (h : ∀ sev, ev ≠ .socket s sev)
    (es : List (Event QString Ctx)) : readSteps s (es ++ [ev]) = readSteps s es := by
  cases ev with
  | socket t sev =>
    have hne : t ≠ s := fun heq => h sev (heq ▸ rfl)
    simp [readSteps, hne]
  | _ => simp [readSteps]

variable [DecidableEq QString] {role : Role} {name : QString} {es : List (Event QString Ctx)}
  {e : Endpoint QString Ctx}

lemma readSteps_of_length_le (h : Runs P role name es e) {s : ℕ} (hs : e.sessions.length ≤ s) :
    readSteps s es = 0 := by
  rw [readSteps, List.countP_eq_zero]
  intro ev hmem
  cases ev with
  | socket t sev =>
    have hne : t ≠ s := by
      rintro rfl
      exact not_mem_of_length_le h hs sev hmem
    simp [hne]
  | _ => simp

/-- The reads of a session take a bounded number of steps for each byte and each frame. -/
theorem readSteps_le (h : Runs P role name es e) {s : ℕ} {c : Conn QString Ctx}
    (hc : e.sessions[s]? = some c) :
    readSteps s es + c.opening + c.readWork ≤
      (received s es).length + 2 * (c.handled.length + c.finishes) + 1 := by
  revert s c
  refine h.invariant_history (I := fun es e => ∀ {s : ℕ} {c : Conn QString Ctx},
    e.sessions[s]? = some c → readSteps s es + c.opening + c.readWork ≤
      (received s es).length + 2 * (c.handled.length + c.finishes) + 1) ?_ ?_
  · intro s c hc
    simp [init] at hc
  · intro es e ev e' hr ih hs s c hc
    cases (step_step P hs).session P hc with
    | same hold hev =>
      rw [readSteps_of_ne hev, received_of_ne hev]
      exact ih hold
    | accept hev _ ht hnew =>
      have hquiet : ∀ sev, ev ≠ .socket s sev := by simp [hev]
      subst ht hnew
      rw [readSteps_of_ne hquiet, readSteps_of_length_le hr (Nat.le_refl _)]
      exact Nat.le_add_left 1 _
    | connect hev _ ht hnew _ =>
      have hquiet : ∀ sev, ev ≠ .socket s sev := by simp [hev]
      subst ht hnew
      rw [readSteps_of_ne hquiet, readSteps_of_length_le hr (Nat.le_refl _)]
      exact Nat.le_add_left 1 _
    | move hev hc₀ hconn _ =>
      subst hev
      have hbefore := ih hc₀
      have hstep := hconn.read_steps
      rw [readSteps_socket, received_socket, List.length_append]
      omega
    | encrypt hev hc₀ _ henc =>
      have hquiet : ∀ sev, ev ≠ .socket s sev := by simp [hev]
      have hbefore := ih hc₀
      subst henc
      rw [readSteps_of_ne hquiet, received_of_ne hquiet]
      exact hbefore
    | close hev _ hclose =>
      have hquiet : ∀ sev, ev ≠ .socket s sev := by simp [hev]
      rw [readSteps_of_ne hquiet, received_of_ne hquiet]
      rcases closeAll_session (owned (Runs.guarded P hr)) hclose with ⟨c₀, id, hc₀, _, rfl⟩ | hold
      · have hbefore := ih hc₀
        have hfin : c₀.closed.finishes = c₀.finishes := by
          simp [Conn.closed_eq, Conn.finishes, ClientCall.isFinished]
        rw [hfin]
        exact hbefore
      · exact ih hold

/-- The read loop of a session that has finished its handshake, for the bytes `w` received after the
packet: it takes at most twice as many steps as there are bytes, and three; only a failed read ends
it, and until then it completes the outstanding read or takes the next byte, whatever that is; and
when it has ended, the texts handed over are those of the frames of `w`, decrypted with the keystream
that the session key starts. -/
theorem read_loop (q : Qt (List UInt8) QString) (k : Curve) {role : Role} {name : QString}
    {es : List (Event QString ChachaContext)} {e : Endpoint QString ChachaContext}
    (h : Runs (bytePrimitives q k mbedtlsChacha20) role name es e) {s : ℕ}
    {c : Conn QString ChachaContext} (hc : e.sessions[s]? = some c) (hfin : 0 < c.finishes)
    {w : List UInt8} (hw : w = (received s es).drop 165)
    (hsize : ∀ f ∈ (msgFraming.split w).1 ++ [(msgFraming.split w).2], getU16 f 0 ≤ 4091) :
    readSteps s es ≤ 2 * (received s es).length + 3 ∧
      (c.reads = [] → .asyncRead ∈ c.errors) ∧
      (c.reads ≠ [] →
        (e.step (bytePrimitives q k mbedtlsChacha20) (.socket s (.readDone 0))).isSome ∨
          (e.step (bytePrimitives q k mbedtlsChacha20) (.socket s (.readFail 0))).isSome ∧
            (c.isOpen = true → ∀ b,
              (e.step (bytePrimitives q k mbedtlsChacha20) (.socket s (.readSome 0 [b]))).isSome)) ∧
      (c.reads = [] → ∀ ctx : ChachaContext,
        c.texts = frameTexts q.fromUtf8 (ctx.started c.sess.chacha20Key).stream
          (msgFraming.split w).1) := by
  obtain ⟨⟨hello, frames, part, hreader, hreceived⟩, _⟩ :=
    readsInOrder (C := chacha20Cipher) rfl h hc
  obtain ⟨_, hdrop⟩ := hreader.split_bytes
  rw [hreceived, hdrop] at hw
  refine ⟨?_, hreader.failed_of_ended hfin, fun hreads => ?_, ?_⟩
  · have hsteps := readSteps_le h hc
    have hord := (ordered _ h.guarded hc).opening
    have hframes := hreader.length_handled
    rw [hreceived] at hsteps ⊢
    simp only [List.length_append] at hsteps ⊢
    omega
  · simp only [step, hc, Option.bind_some, Option.isSome_map]
    exact hreader.progress (e.containsPeerPubkey _) hreads
  · intro hreads ctx
    cases hreader with
    | idle _ hzero _ _ _ => omega
    | packet hone _ _ => simp [hone] at hreads
    | loop _ _ hr hopen =>
      have hkey : ∀ ctx', startedContext (bytePrimitives q k mbedtlsChacha20) ctx'
          c.sess.chacha20Key = ctx.started c.sess.chacha20Key := fun _ => rfl
      rw [hkey] at hr
      have hsplit : msgFraming.split w = (frames, part) :=
        Framing.isSplit_iff.mp ⟨hw, hr.isFrame, hopen hreads⟩
      rw [hsplit] at hsize ⊢
      rw [hr.texts, hr.handled]
      have hsizes : ∀ f ∈ frames, getU16 f 0 ≤ 4091 :=
        fun f hmem => hsize f (List.mem_append_left _ hmem)
      have hstream : chacha20Cipher.stream = ChachaContext.stream := rfl
      rw [← hstream]
      exact filterMap_receiveFrames (P := bytePrimitives q k mbedtlsChacha20) (C := chacha20Cipher) _
        hr.isFrame hsizes

/-- A server reads a frame of protocol 1, an empty frame of protocol 2 and one more byte. -/
theorem read_loop_frames :
    ∃ (es : List (Event (List UInt8) ChachaContext)) (e : Endpoint (List UInt8) ChachaContext)
      (c : Conn (List UInt8) ChachaContext), Runs samplePrimitives .chatServer [] es e ∧
      e.sessions[0]? = some c ∧ (received 0 es).drop 165 = [2, 0, 1, 0, 7, 8, 0, 0, 2, 0, 5] ∧
      c.texts = frameTexts id (sampleContext.started c.sess.chacha20Key).stream
        [[2, 0, 1, 0, 7, 8], [0, 0, 2, 0]] := by
  let es : List (Event (List UInt8) ChachaContext) :=
    [.updatePeerList [⟨[], sampleKey 7, [], 0⟩],
      .accept (sampleKey 3) sampleContext sampleContext,
      .socket 0 (.readSome 0 (sampleHello 1 7 5).pack), .socket 0 (.readDone 0),
      .socket 0 (.readSome 0 [2, 0]), .socket 0 (.readDone 0), .socket 0 (.readSome 0 [1]),
      .socket 0 (.readSome 0 [0, 7, 8]), .socket 0 (.readDone 0), .socket 0 (.readSome 0 [0, 0]),
      .socket 0 (.readDone 0), .socket 0 (.readSome 0 [2, 0]), .socket 0 (.readDone 0),
      .socket 0 (.readSome 0 [5]), .socket 0 (.readFail 0)]
  let test (e : Endpoint (List UInt8) ChachaContext) : Bool :=
    (e.sessions[0]?).any fun c => decide (0 < c.finishes ∧ c.reads = [])
  obtain ⟨e, hrun, hp⟩ := exists_run_of_exec (Endpoint.step samplePrimitives) es test
    (s := Endpoint.init .chatServer []) (by decide +kernel)
  obtain ⟨c, hc, hp⟩ := (Option.any_eq_true _ _).mp hp
  obtain ⟨hfin, hreads⟩ := of_decide_eq_true hp
  have hw : [2, 0, 1, 0, 7, 8, 0, 0, 2, 0, 5] = (received 0 es).drop 165 := by decide +kernel
  have hloop := read_loop sampleQt sampleCurve hrun hc hfin hw (by decide)
  exact ⟨es, e, c, hrun, hc, hw.symm, hloop.2.2.2 hreads sampleContext⟩

end Endpoint

end Enchat
