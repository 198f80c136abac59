import Enchat.Library.Framing
import Enchat.Model.Link
import Enchat.Proofs.SessionOrder

/-!
# The read loop

Whatever bytes arrive and however they are cut, `startRead`, `handleReadMsgHead` and `handleReadMsg`
cut them into frames by the length field and run the decrypt context over the frames of protocol 1.
-/

namespace Enchat
open Buffer ListUpdate

variable {QString Ctx : Type} {P : Primitives (List UInt8) QString Ctx} {C : StreamCipher Ctx}

/-- Frames on the stream: a length field, a protocol field and the payload. -/
def msgFraming : Framing UInt8 where
  header := 2
  total f := getU16 f 0 + 4
  header_pos := by omega
  header_le f := by omega
  total_congr f g h := congrArg (· + 4) (@getU16_congr f g 0 h)

/-- The zeroed buffer after the frame has been read into it. -/
def frameBuffer (f : List UInt8) : List UInt8 := store (List.replicate 4096 0) 0 f

lemma frameBuffer_eq (f : List UInt8) :
    frameBuffer f = f ++ (List.replicate 4096 0).drop f.length := by
  simp only [frameBuffer, store, List.take_zero, List.nil_append, Nat.zero_add]

lemma getU16_frameBuffer {f : List UInt8} {offset : ℕ} (h : offset + 2 ≤ f.length) :
    getU16 (frameBuffer f) offset = getU16 f offset := by
  refine getU16_congr ?_
  rw [frameBuffer_eq, List.take_append_of_le_length h]

/-- The protocol field of a whole frame is the one in the buffer that it was read into. -/
lemma protocol_frameBuffer {f : List UInt8} (hf : msgFraming.IsFrame f) :
    getU16 (frameBuffer f) 2 = getU16 f 2 := by
  have hlen : f.length = getU16 f 0 + 4 := hf
  exact getU16_frameBuffer (by omega)

/-- The two reads of a frame fill the buffer as one read would. -/
lemma store_frameBuffer (hdr got : List UInt8) (h : hdr.length = 2) :
    store (frameBuffer hdr) 2 got = frameBuffer (hdr ++ got) := by
  rw [frameBuffer_eq, frameBuffer_eq, store, ← h, List.take_left, List.length_append,
    List.drop_append, List.drop_of_length_le (by omega), List.nil_append, List.drop_drop]
  congr 2
  omega

def receiveFrame (C : StreamCipher Ctx) (d : Ctx) (f : List UInt8) : Ctx × List UInt8 :=
  if getU16 f 2 = 1 then
    ((C.update d (f.drop 4)).1, store (frameBuffer f) 4 (C.update d (f.drop 4)).2)
  else (d, frameBuffer f)

def receiveFrames (C : StreamCipher Ctx) (d : Ctx) :
    List (List UInt8) → Ctx × List (List UInt8)
  | [] => (d, [])
  | f :: fs =>
    ((receiveFrames C (receiveFrame C d f).1 fs).1,
      (receiveFrame C d f).2 :: (receiveFrames C (receiveFrame C d f).1 fs).2)

lemma receiveFrames_snoc (d : Ctx) (fs : List (List UInt8)) (f : List UInt8) :
    receiveFrames C d (fs ++ [f]) =
      ((receiveFrame C (receiveFrames C d fs).1 f).1,
        (receiveFrames C d fs).2 ++ [(receiveFrame C (receiveFrames C d fs).1 f).2]) := by
  induction fs generalizing d with
  | nil => rfl
  | cons g fs ih => simp [receiveFrames, ih]

lemma length_receiveFrames (d : Ctx) (fs : List (List UInt8)) :
    (receiveFrames C d fs).2.length = fs.length := by
  induction fs generalizing d with
  | nil => rfl
  | cons f fs ih => simp [receiveFrames, ih]

lemma handleReadMsg_frameBuffer (hC : P.mbedtlsChacha20Update = C.update)
    (s : ChatSession (List UInt8) QString Ctx) {f : List UInt8} (hf : msgFraming.IsFrame f) :
    (s.handleReadMsg P false (frameBuffer f)).1.chachaDctx = (receiveFrame C s.chachaDctx f).1 ∧
      (s.handleReadMsg P false (frameBuffer f)).2.1 = (receiveFrame C s.chachaDctx f).2 := by
  have hlen : f.length = getU16 f 0 + 4 := hf
  have hsize : getU16 (frameBuffer f) 0 = getU16 f 0 := getU16_frameBuffer (by omega)
  have hprotocol := protocol_frameBuffer hf
  have hpayload : ((frameBuffer f).drop 4).take (getU16 f 0) = f.drop 4 := by
    rw [frameBuffer_eq, List.drop_append_of_le_length (by omega),
      List.take_append_of_le_length (by rw [List.length_drop]; omega), List.take_of_length_le]
    rw [List.length_drop]
    omega
  simp only [ChatSession.handleReadMsg, receiveFrame, hsize, hprotocol, hpayload, hC,
    Bool.false_eq_true, if_false]
  split
  · exact ⟨rfl, rfl⟩
  · exact ⟨rfl, rfl⟩

/-- What `onTextMsg` is given for a buffer. -/
def msgText (P : Primitives (List UInt8) QString Ctx) (msg : List UInt8) : Option QString :=
  if getU16 msg 2 = 1 then some (P.fromUtf8 (cString (msg.drop 4))) else none

def ClientCall.text : ClientCall QString → Option QString
  | .onTextMsg _ text => some text
  | _ => none

lemma getU16_receiveFrame (d : Ctx) {f : List UInt8} (hf : msgFraming.IsFrame f) (offset : ℕ)
    (h : offset + 2 ≤ 4) : getU16 (receiveFrame C d f).2 offset = getU16 f offset := by
  have hlen : f.length = getU16 f 0 + 4 := hf
  rw [receiveFrame]
  split
  · rw [← getU16_frameBuffer (f := f) (by omega)]
    refine getU16_congr (take_store _ _ h ?_)
    rw [frameBuffer_eq, List.length_append]
    omega
  · exact getU16_frameBuffer (by omega)

namespace Conn

def texts (c : Conn QString Ctx) : List QString := c.calls.filterMap ClientCall.text

/-- The session is reading a frame of which `part` has arrived. -/
def Reading (c : Conn QString Ctx) (part : List UInt8) : Prop :=
  (part.length ≤ 2 ∧ c.reads = [{ headRead with got := part }]) ∨
    ∃ hdr got, part = hdr ++ got ∧ hdr.length = 2 ∧ got.length ≤ getU16 hdr 0 + 2 ∧
      c.reads = [{ bodyRead (frameBuffer hdr) with got := got }]

/-- Nothing of the handshake is left to do. -/
structure Talking (c : Conn QString Ctx) : Prop where
  connecting : c.connecting = .idle
  waiting : c.waiting = []
  writes : ∀ op ∈ c.writes, op.hello = none
  reads : ∀ op ∈ c.reads, op.handler ≠ .onHandShake

/-- The session has read `stream`: whole frames, which it has handled, and a part of the next. -/
structure Receiving (P : Primitives (List UInt8) QString Ctx) (C : StreamCipher Ctx) (d : Ctx)
    (c : Conn QString Ctx) (stream : List UInt8) (frames : List (List UInt8)) (part : List UInt8) :
    Prop where
  cut : stream = frames.flatten ++ part
  isFrame : ∀ f ∈ frames, msgFraming.IsFrame f
  context : c.sess.chachaDctx = (receiveFrames C d frames).1
  handled : c.handled = (receiveFrames C d frames).2
  texts : c.texts = c.handled.filterMap (msgText P)
  reading : c.Reading part ∨ (c.reads = [] ∧ .asyncRead ∈ c.errors)

lemma Talking.established (sess : ChatSession (List UInt8) QString Ctx) :
    (Conn.established P sess).Talking := by
  have hreads : (Conn.established P sess).reads = [headRead] := rfl
  refine ⟨rfl, rfl, fun op hmem => absurd hmem List.not_mem_nil, ?_⟩
  intro op hmem
  rw [hreads, List.mem_singleton] at hmem
  rw [hmem, headRead_handler]
  nofun

lemma Talking.writeMsg {c : Conn QString Ctx} (h : c.Talking) (msg : List UInt8) (size : UInt16) :
    (c.writeMsg P msg size).Talking := by
  refine ⟨h.connecting, h.waiting, ?_, h.reads⟩
  intro op hmem
  rcases List.mem_append.mp hmem with hold | hnew
  · exact h.writes op hold
  · rw [List.mem_singleton.mp hnew]

lemma Talking.step {contains : List UInt8 → Bool} {c c' : Conn QString Ctx} {ev : SocketEvent}
    {effs : List (Effect (List UInt8) QString)} (h : c.Talking) (hs : Step P contains c ev c' effs) :
    c'.Talking := by
  have hconn := h.connecting
  have hidle : c.connecting ≠ .pending ∧ c.connecting ≠ .succeeded := by simp [hconn]
  have hnew : ∀ {i : ℕ} (op : ReadOp), op.handler ≠ .onHandShake →
      ∀ op' ∈ c.reads.eraseIdx i ++ [op], op'.handler ≠ .onHandShake := by
    intro i op hop op' hmem
    rcases List.mem_append.mp hmem with hold | heq
    · exact h.reads op' (List.mem_of_mem_eraseIdx hold)
    · rw [List.mem_singleton.mp heq]
      exact hop
  cases hs with
  | connectOk hc _ => exact absurd hc hidle.1
  | connectDone hc _ => exact absurd hc hidle.2
  | connectAborted hc _ => exact absurd hc hidle.2
  | connectFail hc => exact absurd hc hidle.1
  | @writeSome _ _ op hop _ _ _ =>
    refine ⟨hconn, h.waiting, ?_, h.reads⟩
    intro op' hmem
    rcases List.mem_or_eq_of_mem_set hmem with hold | rfl
    · exact h.writes op' hold
    · exact h.writes op (List.mem_of_getElem? hop)
  | requestDone hop =>
    have hnone := h.writes _ (List.mem_of_getElem? hop)
    simp at hnone
  | writeDone _ _ _ =>
    exact ⟨hconn, h.waiting, fun op hmem => h.writes op (List.mem_of_mem_eraseIdx hmem), h.reads⟩
  | writeFail _ _ =>
    exact ⟨hconn, h.waiting, fun op hmem => h.writes op (List.mem_of_mem_eraseIdx hmem), h.reads⟩
  | @readSome _ _ op hop _ _ _ =>
    refine ⟨hconn, h.waiting, h.writes, ?_⟩
    intro op' hmem
    rcases List.mem_or_eq_of_mem_set hmem with hold | rfl
    · exact h.reads op' hold
    · exact h.reads op (List.mem_of_getElem? hop)
  | readFail _ _ =>
    exact ⟨hconn, h.waiting, h.writes, fun op hmem => h.reads op (List.mem_of_mem_eraseIdx hmem)⟩
  | unlisted hop _ hh _ => exact absurd hh (h.reads _ (List.mem_of_getElem? hop))
  | badSignature hop _ hh _ _ => exact absurd hh (h.reads _ (List.mem_of_getElem? hop))
  | noSharedKey hop _ hh _ _ _ => exact absurd hh (h.reads _ (List.mem_of_getElem? hop))
  | finished hop _ hh _ _ _ => exact absurd hh (h.reads _ (List.mem_of_getElem? hop))
  | headDone _ _ _ => exact ⟨hconn, h.waiting, h.writes, hnew _ nofun⟩
  | bodyDone _ _ _ _ => exact ⟨hconn, h.waiting, h.writes, hnew _ nofun⟩
  | bodySkipped _ _ _ _ => exact ⟨hconn, h.waiting, h.writes, hnew _ nofun⟩
  | startWrite hd => simp [h.waiting] at hd

lemma Talking.opening {c : Conn QString Ctx} (h : c.Talking) : c.opening = 0 := by
  have hwrites : c.writes.countP WriteOp.isRequest = 0 := by
    rw [List.countP_eq_zero]
    intro op hmem
    simp [WriteOp.isRequest, h.writes op hmem]
  have hreads : c.helloReads = 0 := by
    rw [helloReads, List.countP_eq_zero]
    intro op hmem
    simp [ReadOp.isHello, h.reads op hmem]
  rw [Conn.opening, if_pos h.connecting, hwrites, hreads]

lemma Receiving.established (sess : ChatSession (List UInt8) QString Ctx) :
    (Conn.established P sess).Receiving P C (sess.initChaCha20 P).chachaDctx [] [] [] := by
  refine ⟨rfl, by simp, rfl, rfl, rfl, Or.inl (Or.inl ⟨by simp, rfl⟩)⟩

lemma Receiving.frame {d : Ctx} {c c' : Conn QString Ctx} {stream part : List UInt8}
    {frames : List (List UInt8)} (h : c.Receiving P C d stream frames part)
    (hdctx : c'.sess.chachaDctx = c.sess.chachaDctx) (hhandled : c'.handled = c.handled)
    (htexts : c'.texts = c.texts) (hreads : c'.reads = c.reads)
    (herrors : .asyncRead ∈ c.errors → .asyncRead ∈ c'.errors) :
    c'.Receiving P C d stream frames part := by
  refine ⟨h.cut, h.isFrame, hdctx.trans h.context, hhandled.trans h.handled, ?_, ?_⟩
  · rw [htexts, hhandled]
    exact h.texts
  · simp only [Reading, hreads]
    exact h.reading.imp_right (fun hfail => ⟨hfail.1, herrors hfail.2⟩)

lemma Receiving.body {d : Ctx} {c c' : Conn QString Ctx} {stream part : List UInt8}
    {frames : List (List UInt8)} (h : c.Receiving P C d stream frames part)
    (hframe : msgFraming.IsFrame part)
    (hdctx : c'.sess.chachaDctx = (receiveFrame C c.sess.chachaDctx part).1)
    (hhandled : c'.handled = c.handled ++ [(receiveFrame C c.sess.chachaDctx part).2])
    (htexts : c'.texts = c.texts ++
      (msgText P (receiveFrame C c.sess.chachaDctx part).2).toList)
    (hreads : c'.reads = [headRead]) : c'.Receiving P C d stream (frames ++ [part]) [] := by
  refine ⟨?_, ?_, ?_, ?_, ?_, Or.inl (Or.inl ⟨by simp, hreads⟩)⟩
  · rw [h.cut]
    simp
  · intro f hmem
    rcases List.mem_append.mp hmem with hold | heq
    · exact h.isFrame f hold
    · rw [List.mem_singleton.mp heq]
      exact hframe
  · rw [hdctx, receiveFrames_snoc, h.context]
  · rw [hhandled, receiveFrames_snoc, h.handled, h.context]
  · rw [htexts, hhandled, List.filterMap_append, h.texts]
    cases hm : msgText P (receiveFrame C c.sess.chachaDctx part).2 <;> simp [hm]

lemma Receiving.reads_eq {d : Ctx} {c : Conn QString Ctx} {stream part : List UInt8}
    {frames : List (List UInt8)} (h : c.Receiving P C d stream frames part) {i : ℕ} {op : ReadOp}
    (hop : c.reads[i]? = some op) : c.reads = [op] ∧ i = 0 ∧ c.Reading part := by
  have hone : ∀ op', c.reads = [op'] → c.reads = [op] ∧ i = 0 := by
    intro op' hreads
    obtain ⟨hi, rfl⟩ := eq_of_getElem?_singleton hreads hop
    exact ⟨hreads, hi⟩
  rcases h.reading with hr | ⟨hnil, _⟩
  · rcases hr with ⟨hlen, hreads⟩ | ⟨hdr, got, hpart, hhdr, hgot, hreads⟩
    · obtain ⟨heq, hi⟩ := hone _ hreads
      exact ⟨heq, hi, Or.inl ⟨hlen, hreads⟩⟩
    · obtain ⟨heq, hi⟩ := hone _ hreads
      exact ⟨heq, hi, Or.inr ⟨hdr, got, hpart, hhdr, hgot, hreads⟩⟩
  · simp [hnil] at hop

lemma Reading.body_buffer {c : Conn QString Ctx} {part : List UInt8} (h : c.Reading part)
    {op : ReadOp} (hreads : c.reads = [op]) (hfull : op.got.length = op.need)
    (hh : op.handler = .handleReadMsg) : msgFraming.IsFrame part ∧ op.buffer = frameBuffer part := by
  rcases h with ⟨_, hr⟩ | ⟨hdr, got, rfl, hhdr, _, hr⟩
  · obtain rfl := List.singleton_inj.mp (hreads.symm.trans hr)
    cases hh
  · obtain rfl := List.singleton_inj.mp (hreads.symm.trans hr)
    have hsize : getU16 (frameBuffer hdr) 0 = getU16 hdr 0 := getU16_frameBuffer (by omega)
    have hneed : got.length = getU16 hdr 0 + 2 := by
      rw [← hsize]
      exact hfull
    refine ⟨?_, store_frameBuffer hdr got hhdr⟩
    have htotal : getU16 (hdr ++ got) 0 = getU16 hdr 0 :=
      getU16_congr (by rw [List.take_append_of_le_length (by omega)])
    change (hdr ++ got).length = getU16 (hdr ++ got) 0 + 4
    rw [List.length_append, htotal]
    omega

lemma Reading.exists_read {c : Conn QString Ctx} {part : List UInt8} (h : c.Reading part) :
    ∃ op, c.reads = [op] := by
  rcases h with ⟨_, hone⟩ | ⟨_, _, _, _, _, hone⟩
  · exact ⟨_, hone⟩
  · exact ⟨_, hone⟩

lemma Reading.got_le {c : Conn QString Ctx} {part : List UInt8} (h : c.Reading part) {op : ReadOp}
    (hreads : c.reads = [op]) : op.got.length ≤ op.need ∧ 2 ≤ op.need := by
  rcases h with ⟨hle, hr⟩ | ⟨hdr, got, rfl, hhdr, hle, hr⟩
  · obtain rfl := List.singleton_inj.mp (hreads.symm.trans hr)
    exact ⟨hle, Nat.le_refl 2⟩
  · obtain rfl := List.singleton_inj.mp (hreads.symm.trans hr)
    have hsize : getU16 (frameBuffer hdr) 0 = getU16 hdr 0 := getU16_frameBuffer (by omega)
    rw [← hsize] at hle
    exact ⟨hle, Nat.le_add_left 2 _⟩

/-- A frame that is still being read is not complete. -/
lemma Reading.incomplete {c : Conn QString Ctx} {part : List UInt8} (h : c.Reading part)
    {op : ReadOp} (hreads : c.reads = [op]) (hlt : op.got.length < op.need) {f : List UInt8}
    (hf : msgFraming.IsFrame f) : ¬f <+: part := by
  intro hpre
  have hle := hpre.length_le
  have hlen : f.length = getU16 f 0 + 4 := hf
  rcases h with ⟨_, hr⟩ | ⟨hdr, got, rfl, hhdr, _, hr⟩
  · obtain rfl := List.singleton_inj.mp (hreads.symm.trans hr)
    have htwo : part.length < 2 := hlt
    omega
  · obtain rfl := List.singleton_inj.mp (hreads.symm.trans hr)
    have hsize : getU16 (frameBuffer hdr) 0 = getU16 hdr 0 := getU16_frameBuffer (by omega)
    have hgot : got.length < getU16 (frameBuffer hdr) 0 + 2 := hlt
    have htotal : getU16 f 0 = getU16 hdr 0 := by
      refine getU16_congr ?_
      obtain ⟨rest, hrest⟩ := hpre
      have htake := congrArg (List.take 2) hrest
      rwa [List.take_append_of_le_length (by omega), List.take_append_of_le_length (by omega)]
        at htake
    rw [List.length_append] at hle
    omega

/-- Bytes that arrive in a read that is under way. -/
lemma Reading.readSome {c c' : Conn QString Ctx} {part bytes : List UInt8} (h : c.Reading part)
    {op : ReadOp} (hreads : c.reads = [op]) (hle : op.got.length + bytes.length ≤ op.need)
    (hreads' : c'.reads = [{ op with got := op.got ++ bytes }]) : c'.Reading (part ++ bytes) := by
  rcases h with ⟨_, hr⟩ | ⟨hdr, got, rfl, hhdr, _, hr⟩
  · obtain rfl := List.singleton_inj.mp (hreads.symm.trans hr)
    refine Or.inl ⟨?_, hreads'⟩
    rw [List.length_append]
    exact hle
  · obtain rfl := List.singleton_inj.mp (hreads.symm.trans hr)
    refine Or.inr ⟨hdr, got ++ bytes, List.append_assoc _ _ _, hhdr, ?_, hreads'⟩
    have hsize : getU16 (frameBuffer hdr) 0 = getU16 hdr 0 := getU16_frameBuffer (by omega)
    rw [List.length_append, ← hsize]
    exact hle

/-- The length field has arrived, and the rest of the frame is read behind it. -/
lemma Reading.headDone {c c' : Conn QString Ctx} {part : List UInt8} (h : c.Reading part)
    {op : ReadOp} (hreads : c.reads = [op]) (hfull : op.got.length = op.need)
    (hh : op.handler = .handleReadMsgHead) (hreads' : c'.reads = [bodyRead op.buffer]) :
    c'.Reading part := by
  rcases h with ⟨_, hr⟩ | ⟨hdr, got, _, _, _, hr⟩
  · obtain rfl := List.singleton_inj.mp (hreads.symm.trans hr)
    exact Or.inr ⟨part, [], (List.append_nil _).symm, hfull, Nat.zero_le _, hreads'⟩
  · obtain rfl := List.singleton_inj.mp (hreads.symm.trans hr)
    cases hh

/-- A session that is not in its handshake has neither requests to write nor packets to read. -/
lemma of_opening {c : Conn QString Ctx} (h : c.opening = 0) :
    c.connecting = .idle ∧ (∀ op ∈ c.writes, op.hello ≠ some 1) ∧
      ∀ op ∈ c.reads, op.handler ≠ .onHandShake := by
  simp only [opening, helloReads, Nat.add_eq_zero_iff, List.countP_eq_zero, WriteOp.isRequest,
    ReadOp.isHello, decide_eq_true_eq, ite_eq_left_iff] at h
  exact ⟨by by_contra hne; exact absurd (h.1.1 hne) (by omega), h.1.2, h.2⟩

theorem Receiving.step (hC : P.mbedtlsChacha20Update = C.update) {contains : List UInt8 → Bool}
    {c c' : Conn QString Ctx} {ev : SocketEvent} {effs : List (Effect (List UInt8) QString)}
    {d : Ctx} {stream part : List UInt8} {frames : List (List UInt8)} (hopening : c.opening = 0)
    (h : c.Receiving P C d stream frames part) (hs : Step P contains c ev c' effs) :
    ∃ frames' part', c'.Receiving P C d (stream ++ Link.arrived ev) frames' part' ∧
      (c'.reads = [] → (c.reads = [] ∧ part' = part) ∨ ∀ f, msgFraming.IsFrame f → ¬f <+: part') := by
  obtain ⟨hconn, hwrites, hhello⟩ := of_opening hopening
  have hidle : c.connecting ≠ .pending ∧ c.connecting ≠ .succeeded := by simp [hconn]
  have hnil : ∀ {c' : Conn QString Ctx} {frames : List (List UInt8)} {part : List UInt8},
      c'.Receiving P C d stream frames part → c'.Receiving P C d (stream ++ []) frames part :=
    fun h => by rwa [List.append_nil]
  have hsame : ∀ {c' : Conn QString Ctx}, c'.reads = c.reads →
      c'.Receiving P C d stream frames part →
      ∃ frames' part', c'.Receiving P C d (stream ++ []) frames' part' ∧
        (c'.reads = [] → (c.reads = [] ∧ part' = part) ∨
          ∀ f, msgFraming.IsFrame f → ¬f <+: part') := by
    intro c' hreads hr
    exact ⟨frames, part, hnil hr, fun hnone => Or.inl ⟨hreads.symm.trans hnone, rfl⟩⟩
  have hmore : ∀ {l : List ReadOp} {op : ReadOp} {Q : Prop}, l ++ [op] = [] → Q :=
    fun hnone => absurd hnone (List.append_ne_nil_of_right_ne_nil _ (List.cons_ne_nil _ _))
  cases hs with
  | connectOk hc _ => exact absurd hc hidle.1
  | connectDone hc _ => exact absurd hc hidle.2
  | connectAborted hc _ => exact absurd hc hidle.2
  | connectFail hc => exact absurd hc hidle.1
  | writeSome _ _ _ _ => exact hsame rfl (h.frame rfl rfl rfl rfl id)
  | requestDone hop => exact absurd rfl (hwrites _ (List.mem_of_getElem? hop))
  | writeDone _ _ _ => exact hsame rfl (h.frame rfl rfl rfl rfl id)
  | writeFail _ _ => exact hsame rfl (h.frame rfl rfl rfl rfl (List.mem_append_left _))
  | @readSome i bytes op hop _ _ hle =>
    obtain ⟨hreads, rfl, hr⟩ := h.reads_eq hop
    have hreads' : c.reads.set 0 { op with got := op.got ++ bytes } =
        [{ op with got := op.got ++ bytes }] := by
      rw [hreads, List.set_cons_zero]
    refine ⟨frames, part ++ bytes, ⟨?_, h.isFrame, h.context, h.handled, h.texts,
      Or.inl (hr.readSome hreads hle hreads')⟩, by simp [hreads]⟩
    rw [h.cut, List.append_assoc]
    rfl
  | @readFail i op hop hlt =>
    obtain ⟨hreads, rfl, hr⟩ := h.reads_eq hop
    refine ⟨frames, part, hnil ⟨h.cut, h.isFrame, h.context, h.handled, h.texts, ?_⟩,
      fun _ => Or.inr (fun f hf => hr.incomplete hreads hlt hf)⟩
    exact Or.inr ⟨by simp [hreads], by simp⟩
  | unlisted hop _ hh _ => exact absurd hh (hhello _ (List.mem_of_getElem? hop))
  | badSignature hop _ hh _ _ => exact absurd hh (hhello _ (List.mem_of_getElem? hop))
  | noSharedKey hop _ hh _ _ _ => exact absurd hh (hhello _ (List.mem_of_getElem? hop))
  | finished hop _ hh _ _ _ => exact absurd hh (hhello _ (List.mem_of_getElem? hop))
  | @headDone i op hop hfull hh =>
    obtain ⟨hreads, rfl, hr⟩ := h.reads_eq hop
    have hreads' : c.reads.eraseIdx 0 ++ [bodyRead op.buffer] = [bodyRead op.buffer] := by
      rw [hreads, List.eraseIdx_cons_zero, List.nil_append]
    exact ⟨frames, part, hnil ⟨h.cut, h.isFrame, h.context, h.handled, h.texts,
      Or.inl (hr.headDone hreads hfull hh hreads')⟩, hmore⟩
  | @bodyDone i op hop hfull hh hp =>
    obtain ⟨hreads, rfl, hr⟩ := h.reads_eq hop
    obtain ⟨hframe, hbuf⟩ := hr.body_buffer hreads hfull hh
    obtain ⟨hd, hm⟩ := handleReadMsg_frameBuffer hC c.sess hframe
    have hprotocol : getU16 part 2 = 1 := by
      rw [← protocol_frameBuffer hframe, ← hbuf]
      exact hp
    refine ⟨frames ++ [part], [], hnil (h.body hframe ?_ ?_ ?_ ?_), hmore⟩
    · rw [hbuf, hd]
    · rw [hbuf, hm]
    · rw [msgText, getU16_receiveFrame c.sess.chachaDctx hframe 2 (by omega), if_pos hprotocol,
        ← hm, ← hbuf]
      exact List.filterMap_append
    · simp [hreads]
  | @bodySkipped i op hop hfull hh hp =>
    obtain ⟨hreads, rfl, hr⟩ := h.reads_eq hop
    obtain ⟨hframe, hbuf⟩ := hr.body_buffer hreads hfull hh
    have hprotocol : getU16 part 2 ≠ 1 := by
      rw [← protocol_frameBuffer hframe, ← hbuf]
      exact hp
    have hskip : receiveFrame C c.sess.chachaDctx part = (c.sess.chachaDctx, frameBuffer part) :=
      if_neg hprotocol
    refine ⟨frames ++ [part], [], hnil (h.body hframe ?_ ?_ ?_ ?_), hmore⟩
    · rw [hskip]
    · rw [hskip, hbuf]
    · rw [hskip, msgText, if_neg (hbuf ▸ hp)]
      exact (List.append_nil _).symm
    · simp [hreads]
  | startWrite _ => exact hsame rfl (h.frame rfl rfl rfl rfl id)

end Conn

end Enchat
