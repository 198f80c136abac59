import Enchat.Model.Dialogue
import Enchat.Proofs.Delivery
import Enchat.Proofs.EndpointRun

/-!
# The phases of one side of a dialogue

A side is opening, refused or in conversation. The first packet that arrives ends the opening, and
nothing but this packet decides how.
-/

namespace Enchat
open Buffer ListUpdate

variable {QString Ctx : Type} {P : Primitives (List UInt8) QString Ctx} {C : StreamCipher Ctx}

/-- The steps that `async_connect` has left, a request that follows included. -/
def ConnectState.todo : ConnectState → ℕ
  | .idle => 0
  | .pending => 601
  | .succeeded => 600

namespace Conn

/-- The session is as it was made and waits for a packet, after it has sent its own request if it
has one; `stream` has arrived. -/
structure Opening (P : Primitives (List UInt8) QString Ctx)
    (s : ChatSession (List UInt8) QString Ctx) (request : List (HelloPacket (List UInt8)))
    (c : Conn QString Ctx) (stream : List UInt8) : Prop where
  sess : c.sess = s
  opening : c.opening = 1
  finishes : c.finishes = 0
  isOpen : c.isOpen = true
  encrypted : c.encrypted = []
  waiting : c.waiting = []
  handled : c.handled = []
  texts : c.texts = []
  idle : c.connecting = .idle → c.hellos = request
  dialing : c.connecting ≠ .idle → c.hellos = [] ∧ request = [s.helloPacket P 1]
  reads : (c.reads = [] ∧ stream = []) ∨
    (c.reads = [{ helloRead with got := stream }] ∧ stream.length ≤ 165)

/-- The session has not accepted the packet, and nothing is left to do on its socket. -/
structure Refused (request : List (HelloPacket (List UInt8))) (c : Conn QString Ctx) : Prop where
  connecting : c.connecting = .idle
  finishes : c.finishes = 0
  opening : c.opening = 0
  reads : c.reads = []
  writes : c.writes = []
  waiting : c.waiting = []
  encrypted : c.encrypted = []
  handled : c.handled = []
  texts : c.texts = []
  hellos : c.hellos = request

/-- The session was `s` when it had accepted the packet of the other side, with both contexts at
`ctx`. Since then `sent` has been given to `writeMsg` and `stream` has arrived. -/
structure Conversing (P : Primitives (List UInt8) QString Ctx) (C : StreamCipher Ctx)
    (s : ChatSession (List UInt8) QString Ctx) (ctx : Ctx) (sent : List (List UInt8))
    (c : Conn QString Ctx) (stream : List UInt8) : Prop where
  sess : c.sess = { s with chachaDctx := c.sess.chachaDctx, chachaEctx := c.sess.chachaEctx }
  opening : c.opening = 0
  finishes : c.finishes = 1
  isOpen : c.isOpen = true
  waiting : c.waiting = []
  sending : c.Sending C ctx sent
  receiving : ∃ frames part, c.Receiving P C ctx stream frames part

/-- Everything that makes `onHandShake` accept a packet. -/
def Accepted (P : Primitives (List UInt8) QString Ctx) (contains : List UInt8 → Bool)
    (s : ChatSession (List UInt8) QString Ctx) (hp : HelloPacket (List UInt8)) : Prop :=
  s.Admits P contains hp ∧ s.Verifies P hp ∧ (P.x25519 s.ephemeralPriKey hp.ephemeralKey).2 = true

/-- The state of a session that has just accepted a packet. -/
structure Begun (P : Primitives (List UInt8) QString Ctx) (s : ChatSession (List UInt8) QString Ctx)
    (request : List (HelloPacket (List UInt8))) (hp : HelloPacket (List UInt8))
    (c : Conn QString Ctx) : Prop where
  sess : c.sess = (s.agree P hp).initChaCha20 P
  opening : c.opening = 0
  finishes : c.finishes = 1
  isOpen : c.isOpen = true
  waiting : c.waiting = []
  encrypted : c.encrypted = []
  handled : c.handled = []
  texts : c.texts = []
  hellos : c.hellos = request ++ s.reply P hp
  reads : c.reads = [headRead]

lemma hello_helloRead {stream : List UInt8} (h : stream.length = 165) :
    ReadOp.hello { helloRead with got := stream } = HelloPacket.ofBytes stream := by
  have hstore : store (List.replicate 165 0) 0 stream = stream := by
    rw [store_zero, List.drop_of_length_le (by rw [List.length_replicate, h]), List.append_nil]
  exact congrArg HelloPacket.ofBytes hstore

lemma Opening.read {s : ChatSession (List UInt8) QString Ctx}
    {request : List (HelloPacket (List UInt8))} {c : Conn QString Ctx} {stream : List UInt8}
    (h : c.Opening P s request stream) {i : ℕ} {op : ReadOp} (hop : c.reads[i]? = some op) :
    i = 0 ∧ c.reads = [op] ∧ op = { helloRead with got := stream } := by
  rcases h.reads with ⟨hnil, _⟩ | ⟨hone, _⟩
  · simp [hnil] at hop
  · obtain ⟨hi, rfl⟩ := eq_of_getElem?_singleton hone hop
    exact ⟨hi, hone, rfl⟩

/-- A side that is opening has only its request to write. -/
lemma Opening.request {s : ChatSession (List UInt8) QString Ctx}
    {request : List (HelloPacket (List UInt8))} {c : Conn QString Ctx} {stream : List UInt8}
    (h : c.Opening P s request stream) (hord : c.InOrder) {op : WriteOp} (hop : op ∈ c.writes) :
    op.hello = some 1 := by
  have hpos : 0 < c.opening := by
    rw [h.opening]
    exact Nat.one_pos
  simpa [WriteOp.isRequest] using (hord.opening hpos).2 op hop

/-- While the session reads a packet, its own one has been written. -/
lemma Opening.quiet {s : ChatSession (List UInt8) QString Ctx}
    {request : List (HelloPacket (List UInt8))} {c : Conn QString Ctx} {stream : List UInt8}
    (h : c.Opening P s request stream) (hord : c.InOrder) {i : ℕ} {op : ReadOp}
    (hop : c.reads[i]? = some op) :
    c.connecting = .idle ∧ c.writes = [] ∧ c.hellos = request := by
  obtain ⟨_, hone, rfl⟩ := h.read hop
  have hopening := h.opening
  have hfin := h.finishes
  have hread : c.helloReads = 1 := by
    rw [helloReads, hone]
    rfl
  have hidle : c.connecting = .idle := by
    by_contra hne
    rw [Conn.opening, if_neg hne] at hopening
    omega
  exact ⟨hidle, (hord.no_writes (by omega) (Or.inr (by omega))).1, h.idle hidle⟩

/-- A packet that is not accepted leaves nothing to do. -/
lemma Opening.refused {s : ChatSession (List UInt8) QString Ctx}
    {request : List (HelloPacket (List UInt8))} {c c' : Conn QString Ctx} {stream : List UInt8}
    (h : c.Opening P s request stream) (hord : c.InOrder) {i : ℕ} {op : ReadOp}
    (hop : c.reads[i]? = some op) (hless : c'.opening + 1 = c.opening)
    (hconnecting : c'.connecting = c.connecting) (hfin : c'.finishes = c.finishes)
    (hreads : c'.reads = c.reads.eraseIdx i) (hwrites : c'.writes = c.writes)
    (hwaiting : c'.waiting = c.waiting) (hencrypted : c'.encrypted = c.encrypted)
    (hhandled : c'.handled = c.handled) (htexts : c'.texts = c.texts)
    (hhellos : c'.hellos = c.hellos) : c'.Refused request := by
  obtain ⟨hidle, hnone, hrequest⟩ := h.quiet hord hop
  obtain ⟨rfl, hone, rfl⟩ := h.read hop
  have hopening := h.opening
  refine ⟨hconnecting.trans hidle, hfin.trans h.finishes, by omega, ?_, hwrites.trans hnone,
    hwaiting.trans h.waiting, hencrypted.trans h.encrypted, hhandled.trans h.handled,
    htexts.trans h.texts, hhellos.trans hrequest⟩
  rw [hreads, hone, List.eraseIdx_cons_zero]

theorem Opening.step {contains : List UInt8 → Bool} {s : ChatSession (List UInt8) QString Ctx}
    {request : List (HelloPacket (List UInt8))} {c c' : Conn QString Ctx} {stream : List UInt8}
    {ev : SocketEvent} {effs : List (Effect (List UInt8) QString)}
    (h : c.Opening P s request stream) (hord : c.InOrder) (hs : Step P contains c ev c' effs)
    (hworks : Dialogue.works ev = true) :
    c'.Opening P s request (stream ++ Link.arrived ev) ∨
    (Link.arrived ev = [] ∧ stream.length = 165 ∧
      ¬Accepted P contains s (HelloPacket.ofBytes stream) ∧ c'.Refused request) ∨
    (Link.arrived ev = [] ∧ stream.length = 165 ∧
      Accepted P contains s (HelloPacket.ofBytes stream) ∧
      c'.Begun P s request (HelloPacket.ofBytes stream)) := by
  have hopening := h.opening
  have hsess := h.sess
  have hsame : stream ++ [] = stream := List.append_nil stream
  have hnoread : ∀ {i : ℕ} {op : ReadOp}, c.reads[i]? = some op → op.handler = .onHandShake := by
    intro i op hop
    obtain ⟨_, _, rfl⟩ := h.read hop
    rfl
  have hless : ∀ {i : ℕ} {op : ReadOp}, ev = .readDone i → c.reads[i]? = some op →
      c'.opening + 1 = c.opening := by
    rintro i op rfl hop
    exact hs.opening_hello P hop (hnoread hop)
  cases hs with
  | connectOk hc _ =>
    refine Or.inl ⟨hsess, ?_, h.finishes, h.isOpen, h.encrypted, h.waiting, h.handled, h.texts,
      fun hidle => absurd hidle (by simp), fun _ => h.dialing (by rw [hc]; decide), ?_⟩
    · rw [← hopening]
      simp [Conn.opening, helloReads, hc]
    · simpa [Link.arrived] using h.reads
  | connectAborted _ hclosed => exact absurd hclosed (ne_false_of_eq_true h.isOpen)
  | connectDone hc _ =>
    obtain ⟨hhellos, hrequest⟩ := h.dialing (by rw [hc]; decide)
    have hread : c.reads = [] ∧ stream = [] := by
      rcases h.reads with hnil | ⟨hone, _⟩
      · exact hnil
      · simp [Conn.opening, helloReads, hc, hone, helloRead, ReadOp.isHello] at hopening
    refine Or.inl ⟨hsess, ?_, ?_, h.isOpen, h.encrypted, h.waiting, h.handled, ?_, ?_,
      fun hne => absurd rfl hne, ?_⟩
    · simp only [Conn.opening, helloReads, hc, hread.1, reduceCtorEq, if_false, List.countP_nil]
        at hopening
      simp only [Conn.opening, helloReads, hread.1, if_true, List.countP_append, List.countP_nil,
        List.countP_singleton, WriteOp.isRequest, decide_true]
      omega
    · simpa [Conn.finishes, ClientCall.isFinished] using h.finishes
    · simpa [Conn.texts, ClientCall.text] using h.texts
    · intro _
      rw [hhellos, hrequest, hsess]
      rfl
    · simpa [Link.arrived] using Or.inl hread
  | connectFail _ => cases hworks
  | @writeSome i n op hop _ _ _ =>
    have hcount := countP_set_of_eq WriteOp.isRequest
      (b := { op with data := op.data.drop n }) hop rfl
    refine Or.inl ⟨hsess, ?_, h.finishes, h.isOpen, h.encrypted, h.waiting, h.handled, h.texts,
      h.idle, h.dialing, ?_⟩
    · simpa only [Conn.opening, helloReads, hcount] using hopening
    · simpa [Link.arrived] using h.reads
  | @requestDone i hop =>
    have hcount := countP_eraseIdx_add WriteOp.isRequest hop
    have hreq : WriteOp.isRequest ⟨some 1, []⟩ = true := rfl
    rw [hreq, if_pos rfl] at hcount
    have hidle : c.connecting = .idle := by
      by_contra hne
      rw [Conn.opening, if_neg hne] at hopening
      omega
    have hread : c.reads = [] ∧ stream = [] := by
      rcases h.reads with hnil | ⟨hone, _⟩
      · exact hnil
      · have hone' : c.helloReads = 1 := by
          rw [helloReads, hone]
          rfl
        simp only [Conn.opening] at hopening
        omega
    refine Or.inl ⟨hsess, ?_, h.finishes, h.isOpen, h.encrypted, h.waiting, h.handled, h.texts,
      h.idle, h.dialing, Or.inr ?_⟩
    · simp only [Conn.opening, helloReads, hread.1, List.nil_append, List.countP_singleton,
        isHello_helloRead, if_true, List.countP_nil] at hopening ⊢
      omega
    · simp [hread.1, hread.2, Link.arrived, helloRead]
  | writeDone hop _ hne => exact absurd (h.request hord (List.mem_of_getElem? hop)) hne
  | writeFail _ _ => cases hworks
  | @readSome i bytes op hop _ _ hle =>
    have hcount := countP_set_of_eq ReadOp.isHello (b := { op with got := op.got ++ bytes }) hop rfl
    obtain ⟨rfl, hone, rfl⟩ := h.read hop
    refine Or.inl ⟨hsess, ?_, h.finishes, h.isOpen, h.encrypted, h.waiting, h.handled, h.texts,
      h.idle, h.dialing, Or.inr ⟨?_, ?_⟩⟩
    · simpa only [Conn.opening, helloReads, hcount] using hopening
    · rw [hone]
      rfl
    · rw [List.length_append]
      exact hle
  | readFail _ _ => cases hworks
  | unlisted hop hfull hh ha =>
    have hle := hless rfl hop
    obtain ⟨_, _, rfl⟩ := h.read hop
    rw [hello_helloRead hfull, hsess] at ha
    refine Or.inr (Or.inl ⟨rfl, hfull, fun hacc => ha hacc.1, ?_⟩)
    refine h.refused hord hop hle rfl ?_ rfl rfl rfl rfl rfl ?_ rfl
    · simp [Conn.finishes, ClientCall.isFinished]
    · simp [Conn.texts, ClientCall.text]
  | badSignature hop hfull hh ha hv =>
    have hle := hless rfl hop
    obtain ⟨_, _, rfl⟩ := h.read hop
    rw [hello_helloRead hfull, hsess] at hv
    refine Or.inr (Or.inl ⟨rfl, hfull, fun hacc => hv hacc.2.1, ?_⟩)
    refine h.refused hord hop hle rfl ?_ rfl rfl rfl rfl rfl ?_ rfl
    · simp [Conn.finishes, ClientCall.isFinished]
    · simp [Conn.texts, ClientCall.text]
  | noSharedKey hop hfull hh ha hv hx =>
    have hle := hless rfl hop
    obtain ⟨_, _, rfl⟩ := h.read hop
    rw [hello_helloRead hfull, hsess] at hx
    refine Or.inr (Or.inl ⟨rfl, hfull, fun hacc => ?_, ?_⟩)
    · rw [hacc.2.2] at hx
      cases hx
    · exact h.refused hord hop hle rfl rfl rfl rfl rfl rfl rfl rfl rfl
  | finished hop hfull hh ha hv hx =>
    have hle := hless rfl hop
    obtain ⟨_, _, hrequest⟩ := h.quiet hord hop
    obtain ⟨rfl, hone, rfl⟩ := h.read hop
    rw [hello_helloRead hfull] at ha hv hx hle ⊢
    rw [hsess] at ha hv hx
    refine Or.inr (Or.inr ⟨rfl, hfull, ⟨ha, hv, hx⟩, ?_, by omega, ?_, h.isOpen, h.waiting,
      h.encrypted, h.handled, ?_, ?_, ?_⟩)
    · rw [hsess]
    · have hfin := h.finishes
      simp only [Conn.finishes] at hfin
      simp [Conn.finishes, ClientCall.isFinished, hfin]
    · simpa [Conn.texts, ClientCall.text] using h.texts
    · rw [hrequest, hsess]
    · rw [hone]
      rfl
  | headDone hop _ hh => simp [hnoread hop] at hh
  | bodyDone hop _ hh _ => simp [hnoread hop] at hh
  | bodySkipped hop _ hh _ => simp [hnoread hop] at hh
  | startWrite _ => cases hworks

lemma Begun.conversing {s : ChatSession (List UInt8) QString Ctx}
    {request : List (HelloPacket (List UInt8))} {hp : HelloPacket (List UInt8)}
    {c : Conn QString Ctx} (h : c.Begun P s request hp) {ctx : Ctx}
    (hdctx : ((s.agree P hp).initChaCha20 P).chachaDctx = ctx)
    (hectx : ((s.agree P hp).initChaCha20 P).chachaEctx = ctx) :
    c.Conversing P C ((s.agree P hp).initChaCha20 P) ctx [] [] := by
  refine ⟨?_, h.opening, h.finishes, h.isOpen, h.waiting, ?_, [], [], ?_⟩
  · rw [h.sess]
  · exact ⟨by rw [h.sess]; exact hectx, h.encrypted, fun _ hmem => absurd hmem List.not_mem_nil⟩
  · refine ⟨rfl, fun _ hmem => absurd hmem List.not_mem_nil, ?_, h.handled, ?_,
      Or.inl (Or.inl ⟨Nat.zero_le _, h.reads⟩)⟩
    · rw [h.sess]
      exact hdctx
    · rw [h.texts, h.handled]
      rfl

/-- What a session does not change any more once it has accepted a packet. -/
lemma Step.frame_of_opening {contains : List UInt8 → Bool} {c c' : Conn QString Ctx}
    {ev : SocketEvent} {effs : List (Effect (List UInt8) QString)} (h : c.opening = 0)
    (hs : Step P contains c ev c' effs) :
    c'.sess = { c.sess with chachaDctx := c'.sess.chachaDctx } ∧ c'.encrypted = c.encrypted ∧
      c'.hellos = c.hellos ∧ c'.isOpen = c.isOpen ∧ c'.finishes = c.finishes := by
  obtain ⟨hidle, hwrites, hreads⟩ := of_opening h
  cases hs with
  | connectDone hc _ => simp [hidle] at hc
  | unlisted hop _ hh _ => exact absurd hh (hreads _ (List.mem_of_getElem? hop))
  | badSignature hop _ hh _ _ => exact absurd hh (hreads _ (List.mem_of_getElem? hop))
  | noSharedKey hop _ hh _ _ _ => exact absurd hh (hreads _ (List.mem_of_getElem? hop))
  | finished hop _ hh _ _ _ => exact absurd hh (hreads _ (List.mem_of_getElem? hop))
  | @bodyDone _ op _ _ _ _ =>
    refine ⟨ChatSession.handleReadMsg_eq P c.sess false op.buffer, rfl, rfl, rfl, ?_⟩
    simp [finishes, ClientCall.isFinished]
  | _ => exact ⟨rfl, rfl, rfl, rfl, rfl⟩

/-- On a working connection nothing fails, unless the socket was closed while it was connecting. -/
lemma Step.waiting_of_works {contains : List UInt8 → Bool} {c c' : Conn QString Ctx}
    {ev : SocketEvent} {effs : List (Effect (List UInt8) QString)}
    (hs : Step P contains c ev c' effs) (hworks : Dialogue.works ev = true)
    (hopen : c.connecting = .idle ∨ c.isOpen = true) :
    c'.waiting = c.waiting ∧ c'.errors = c.errors := by
  cases hs with
  | connectAborted hc hclosed => simp [hc, hclosed] at hopen
  | connectFail _ => cases hworks
  | writeFail _ _ => cases hworks
  | readFail _ _ => cases hworks
  | startWrite _ => cases hworks
  | _ => exact ⟨rfl, rfl⟩

lemma Conversing.step (hC : P.mbedtlsChacha20Update = C.update) {contains : List UInt8 → Bool}
    {s : ChatSession (List UInt8) QString Ctx} {ctx : Ctx} {sent : List (List UInt8)}
    {c c' : Conn QString Ctx} {stream : List UInt8} {ev : SocketEvent}
    {effs : List (Effect (List UInt8) QString)} (h : c.Conversing P C s ctx sent stream)
    (hs : Step P contains c ev c' effs) (hworks : Dialogue.works ev = true) :
    c'.Conversing P C s ctx sent (stream ++ Link.arrived ev) ∧ c'.hellos = c.hellos := by
  obtain ⟨hsess, hencrypted, hhellos, hopen, hfin⟩ := hs.frame_of_opening h.opening
  have hopening := hs.opening_le
  have hzero := h.opening
  obtain ⟨frames, part, hr⟩ := h.receiving
  obtain ⟨frames', part', hr', _⟩ := hr.step hC h.opening hs
  have hectx : c'.sess.chachaEctx = c.sess.chachaEctx := by rw [hsess]
  refine ⟨⟨?_, by omega, hfin.trans h.finishes, hopen.trans h.isOpen,
    (hs.waiting_of_works hworks (Or.inr h.isOpen)).1.trans h.waiting, ?_, frames', part', hr'⟩, hhellos⟩
  · rw [hsess, h.sess]
  · exact ⟨hectx.trans h.sending.context, hencrypted.trans h.sending.encrypted, h.sending.short⟩

lemma opening_sendText (c : Conn QString Ctx) (text : QString) :
    (c.sendText P text).opening = c.opening := by
  have hcount : (c.writes ++ [WriteOp.mk none (c.sess.encryptMsg P (textMsg P text).1
      (textMsg P text).2).2]).countP WriteOp.isRequest = c.writes.countP WriteOp.isRequest := by
    simp [WriteOp.isRequest]
  exact congrArg (fun n => (if c.connecting = .idle then 0 else 1) + n + c.helloReads) hcount

lemma Ordered.sendText {c : Conn QString Ctx} (h : c.Ordered) (text : QString) :
    (c.sendText P text).Ordered := by
  refine ⟨?_, h.frames, h.initRuns, h.texts, h.ids⟩
  rw [opening_sendText]
  exact h.opening

lemma Conversing.sendText (hC : P.mbedtlsChacha20Update = C.update)
    {s : ChatSession (List UInt8) QString Ctx} {ctx : Ctx} {sent : List (List UInt8)}
    {c : Conn QString Ctx} {stream : List UInt8} (h : c.Conversing P C s ctx sent stream)
    {text : QString} (hlen : (P.toUtf8 text).length ≤ 4092) :
    (c.sendText P text).Conversing P C s ctx (sent ++ [P.toUtf8 text]) stream := by
  obtain ⟨hprotocol, hsize, hmsg, hpayload⟩ := textCall_spec .near hlen
  have hsending := h.sending.writeMsg hC hprotocol hsize hmsg
  rw [hpayload] at hsending
  obtain ⟨frames, part, hr⟩ := h.receiving
  refine ⟨?_, ?_, h.finishes, h.isOpen, h.waiting, hsending, frames, part, ?_⟩
  · have hsess : (c.sendText P text).sess =
        { c.sess with chachaEctx := (c.sendText P text).sess.chachaEctx } := rfl
    rw [hsess, h.sess]
  · rw [opening_sendText, h.opening]
  · exact hr.frame rfl rfl rfl rfl id

lemma Refused.step {contains : List UInt8 → Bool} {request : List (HelloPacket (List UInt8))}
    {c c' : Conn QString Ctx} {ev : SocketEvent} {effs : List (Effect (List UInt8) QString)}
    (h : c.Refused request) (hs : Step P contains c ev c' effs) : False := by
  have hreads : ∀ (i : ℕ) (op : ReadOp), c.reads[i]? ≠ some op := by simp [h.reads]
  have hwrites : ∀ (i : ℕ) (op : WriteOp), c.writes[i]? ≠ some op := by simp [h.writes]
  cases hs with
  | connectOk hc _ => simp [h.connecting] at hc
  | connectDone hc _ => simp [h.connecting] at hc
  | connectAborted hc _ => simp [h.connecting] at hc
  | connectFail hc => simp [h.connecting] at hc
  | writeSome hop _ _ _ => exact hwrites _ _ hop
  | requestDone hop => exact hwrites _ _ hop
  | writeDone hop _ _ => exact hwrites _ _ hop
  | writeFail hop _ => exact hwrites _ _ hop
  | readSome hop _ _ _ => exact hreads _ _ hop
  | readFail hop _ => exact hreads _ _ hop
  | unlisted hop _ _ _ => exact hreads _ _ hop
  | badSignature hop _ _ _ _ => exact hreads _ _ hop
  | noSharedKey hop _ _ _ _ _ => exact hreads _ _ hop
  | finished hop _ _ _ _ _ => exact hreads _ _ hop
  | headDone hop _ _ => exact hreads _ _ hop
  | bodyDone hop _ _ _ => exact hreads _ _ hop
  | bodySkipped hop _ _ _ => exact hreads _ _ hop
  | startWrite hd => simp [h.waiting] at hd

/-- The session has sent nothing, or the packet before anything else. -/
def Announces (hp : HelloPacket (List UInt8)) (c : Conn QString Ctx) : Prop :=
  (c.hellos = [] ∧ c.encrypted = []) ∨ ∃ rest, c.hellos = hp :: rest

/-- The first 165 bytes that arrive from a session are its packet. -/
lemma Announces.take {hp : HelloPacket (List UInt8)} {c : Conn QString Ctx} (h : c.Announces hp)
    (hord : c.InOrder) {received : List UInt8} (hreceived : received <+: c.wireBytes)
    (hlen : 165 ≤ received.length) : received.take 165 = hp.pack := by
  have hpre := hreceived.trans hord.sent
  rcases h with ⟨hnil, hnone⟩ | ⟨rest, hhellos⟩
  · rw [packets, hnil, hnone, List.flatMap_nil, List.flatten_nil, List.append_nil,
      List.prefix_nil] at hpre
    simp [hpre] at hlen
  · rw [packets, hhellos, List.flatMap_cons, List.append_assoc] at hpre
    obtain ⟨tail, htail⟩ := hpre
    have htake := congrArg (List.take 165) htail
    rwa [List.take_append_of_le_length hlen, List.take_left' hp.length_pack] at htake

/-- What the socket of a session still has to do. A handshake counts for more than any of its
packets, and so does a connection that is being made. -/
def todo (c : Conn QString Ctx) : ℕ :=
  c.work + 600 * (1 - c.finishes) + c.connecting.todo

lemma todo_lt_of_work {c c' : Conn QString Ctx} {n : ℕ} (hfin : c'.finishes = c.finishes)
    (hconnecting : c'.connecting = c.connecting)
    (hwork : c'.work + 2 * c'.wireBytes.length < c.work + 2 * c.wireBytes.length + n) :
    c'.todo + 2 * c'.wireBytes.length < c.todo + 2 * c.wireBytes.length + n := by
  rw [todo, todo, hfin, hconnecting]
  omega

/-- A read that ends takes its bytes along. -/
lemma work_readDone {c c' : Conn QString Ctx} {op : ReadOp} (hone : c.reads = [op])
    (hpos : 0 < op.got.length) (hreads : (c'.reads.map fun op => op.got.length).sum = 0)
    (hwrites : c'.writes = c.writes) (hwire : c'.wire = c.wire) :
    c'.work + 2 * c'.wireBytes.length < c.work + 2 * c.wireBytes.length + 0 := by
  simp only [work, unsent, wireBytes, hwrites, hwire, hreads, hone, List.map_cons, List.map_nil,
    List.sum_cons, List.sum_nil]
  omega

/-- Every step of a working connection leaves less to do, apart from bytes that arrive. -/
lemma Step.todo_lt {contains : List UInt8 → Bool} {c c' : Conn QString Ctx} {ev : SocketEvent}
    {effs : List (Effect (List UInt8) QString)} (hord : c.InOrder)
    (hle : c.opening + c.finishes ≤ 1)
    (hreads : ∀ (i : ℕ) op, c.reads[i]? = some op → c.reads = [op] ∧ i = 0 ∧ 0 < op.need)
    (hs : Step P contains c ev c' effs) (hworks : Dialogue.works ev = true) :
    c'.todo + 2 * c'.wireBytes.length <
      c.todo + 2 * c.wireBytes.length + 2 * (Link.arrived ev).length := by
  cases hs with
  | connectOk hc _ =>
    simp only [todo, work, unsent, wireBytes, finishes, hc, ConnectState.todo]
    omega
  | connectDone hc _ =>
    have hnone := (hord.no_writes hle (Or.inl (by rw [hc]; decide))).1
    have hcalls : (c.calls ++ [ClientCall.onConnected c.sess.id]).countP ClientCall.isFinished =
        c.calls.countP ClientCall.isFinished := by
      simp [ClientCall.isFinished]
    simp only [todo, work, unsent, wireBytes, finishes, hc, hnone, hcalls, ConnectState.todo,
      List.nil_append, List.flatMap_cons, List.flatMap_nil, List.append_nil, List.length_cons,
      List.length_nil, HelloPacket.length_pack]
    omega
  | connectAborted hc _ =>
    simp only [todo, work, unsent, wireBytes, finishes, hc, ConnectState.todo]
    omega
  | connectFail _ => cases hworks
  | writeFail _ _ => cases hworks
  | readFail _ _ => cases hworks
  | startWrite _ => cases hworks
  | @writeSome i n op hop _ hpos hlen =>
    have hne : op.data ≠ [] := List.ne_nil_of_length_pos (by omega)
    obtain ⟨hunsent, hunsent'⟩ := hord.unsent_set hop hne { op with data := op.data.drop n }
    rw [unsent] at hunsent
    refine todo_lt_of_work rfl rfl ?_
    simp only [work, unsent, hunsent, hunsent', wireBytes, Link.arrived, List.length_set,
      List.length_map, List.length_append, List.length_take, List.length_drop, List.length_nil]
    omega
  | @requestDone i hop =>
    have hi := (List.getElem?_eq_some_iff.mp hop).1
    have hsum : ((c.reads ++ [helloRead]).map fun op => op.got.length).sum =
        (c.reads.map fun op => op.got.length).sum := by
      rw [List.map_append, List.sum_append]
      rfl
    refine todo_lt_of_work rfl rfl ?_
    simp only [work, unsent, wireBytes, hsum, flatMap_eraseIdx_of_nil (f := WriteOp.data) hop rfl,
      List.length_eraseIdx_of_lt hi]
    omega
  | @writeDone i op hop hd _ =>
    have hi := (List.getElem?_eq_some_iff.mp hop).1
    refine todo_lt_of_work rfl rfl ?_
    simp only [work, unsent, wireBytes, flatMap_eraseIdx_of_nil hop hd,
      List.length_eraseIdx_of_lt hi]
    omega
  | @readSome i bytes op hop _ hne _ =>
    obtain ⟨hone, rfl, _⟩ := hreads i op hop
    have hpos := List.length_pos_of_ne_nil hne
    refine todo_lt_of_work rfl rfl ?_
    simp only [work, unsent, wireBytes, hone, List.set_cons_zero, List.map_cons, List.map_nil,
      List.sum_cons, List.sum_nil, List.length_append, Link.arrived]
    omega
  | unlisted hop hfull _ _ =>
    obtain ⟨hone, rfl, hneed⟩ := hreads _ _ hop
    refine todo_lt_of_work ?_ rfl (work_readDone hone (by omega) (by rw [hone]; rfl) rfl rfl)
    simp [finishes, ClientCall.isFinished]
  | badSignature hop hfull _ _ _ =>
    obtain ⟨hone, rfl, hneed⟩ := hreads _ _ hop
    refine todo_lt_of_work ?_ rfl (work_readDone hone (by omega) (by rw [hone]; rfl) rfl rfl)
    simp [finishes, ClientCall.isFinished]
  | noSharedKey hop hfull _ _ _ _ =>
    obtain ⟨hone, rfl, hneed⟩ := hreads _ _ hop
    exact todo_lt_of_work rfl rfl (work_readDone hone (by omega) (by rw [hone]; rfl) rfl rfl)
  | @finished i op hop hfull hh _ _ _ =>
    obtain ⟨hnone, _, hzero⟩ := hord.no_writes hle (Or.inr (helloReads_pos hop hh))
    obtain ⟨hone, rfl, hneed⟩ := hreads _ _ hop
    have hcalls : (c.calls ++ [ClientCall.onHandShakeFinished
        (c.sess.adoptPeer P op.hello).id]).countP ClientCall.isFinished = 1 := by
      simp only [finishes] at hzero
      simp [ClientCall.isFinished, hzero]
    have hreply : (((c.sess.reply P op.hello).map (fun hp => (⟨some hp.type, hp.pack⟩ : WriteOp))
        ).flatMap WriteOp.data).length ≤ 165 ∧ (c.sess.reply P op.hello).length ≤ 1 := by
      unfold ChatSession.reply
      split <;> simp
    have hreads' : ((c.reads.eraseIdx 0 ++ [headRead]).map fun op => op.got.length).sum = 0 := by
      rw [hone]
      rfl
    simp only [finishes] at hzero
    simp only [todo, work, unsent, wireBytes, hnone, hreads', finishes, hcalls, hzero,
      List.nil_append, List.length_map, List.flatMap_nil, List.length_nil]
    omega
  | headDone hop hfull _ =>
    obtain ⟨hone, rfl, hneed⟩ := hreads _ _ hop
    exact todo_lt_of_work rfl rfl (work_readDone hone (by omega) (by rw [hone]; rfl) rfl rfl)
  | bodyDone hop hfull _ _ =>
    obtain ⟨hone, rfl, hneed⟩ := hreads _ _ hop
    refine todo_lt_of_work ?_ rfl (work_readDone hone (by omega) (by rw [hone]; rfl) rfl rfl)
    simp [finishes, ClientCall.isFinished]
  | bodySkipped hop hfull _ _ =>
    obtain ⟨hone, rfl, hneed⟩ := hreads _ _ hop
    exact todo_lt_of_work rfl rfl (work_readDone hone (by omega) (by rw [hone]; rfl) rfl rfl)

end Conn

end Enchat
