import Enchat.Model.Link
import Enchat.Proofs.SessionMap

/-!
# The order of bytes on the wire

A session has no queue of writes. Packets and frames reach the wire whole and in order as long as
each frame is started in its turn and finds every earlier write transferred.
-/

namespace Enchat
open Transition ListUpdate

variable {QString Ctx : Type}

namespace Conn

def packets (c : Conn QString Ctx) : List UInt8 := c.hellos.flatMap HelloPacket.pack

def unsent (c : Conn QString Ctx) : List UInt8 := c.writes.flatMap WriteOp.data

/-- Packets and frames are on the wire in order, at most the last write being incomplete. -/
structure InOrder (c : Conn QString Ctx) : Prop where
  opening : 0 < c.opening → .asyncWrite ∉ c.errors ∧ ∀ op ∈ c.writes, op.isRequest = true
  waiting : c.finishes = 0 → c.encrypted = c.waiting
  last : ∀ (i : ℕ) op, c.writes[i]? = some op → op.data ≠ [] → i + 1 = c.writes.length
  failed : .asyncWrite ∈ c.errors → ∀ op ∈ c.writes, op.data = []
  bytes : .asyncWrite ∉ c.errors →
    c.wireBytes ++ c.unsent ++ c.waiting.flatten = c.packets ++ c.encrypted.flatten
  sent : c.wireBytes <+: c.packets ++ c.encrypted.flatten

variable {P : Primitives (List UInt8) QString Ctx}

lemma InOrder.new {c : Conn QString Ctx} (hwrites : c.writes = []) (hwaiting : c.waiting = [])
    (hwire : c.wire = []) (hhellos : c.hellos = []) (hencrypted : c.encrypted = [])
    (herrors : c.errors = []) : c.InOrder := by
  refine ⟨?_, ?_, ?_, ?_, ?_, ?_⟩
  · simp [hwrites, herrors]
  · simp [hwaiting, hencrypted]
  · simp [hwrites]
  · simp [hwrites]
  · simp [wireBytes, unsent, packets, hwrites, hwaiting, hwire, hhellos, hencrypted]
  · simp [wireBytes, hwire]

lemma InOrder.frame {c c' : Conn QString Ctx} (h : c.InOrder) (hopening : c'.opening ≤ c.opening)
    (hfin : c.finishes ≤ c'.finishes) (hwrites : c'.writes = c.writes)
    (hwaiting : c'.waiting = c.waiting) (hwire : c'.wire = c.wire) (hhellos : c'.hellos = c.hellos)
    (hencrypted : c'.encrypted = c.encrypted)
    (herrors : .asyncWrite ∈ c'.errors ↔ .asyncWrite ∈ c.errors) : c'.InOrder := by
  refine ⟨?_, ?_, ?_, ?_, ?_, ?_⟩
  · intro hpos
    rw [herrors, hwrites]
    exact h.opening (by omega)
  · intro hzero
    rw [hencrypted, hwaiting]
    exact h.waiting (by omega)
  · rw [hwrites]
    exact h.last
  · rw [herrors, hwrites]
    exact h.failed
  · simp only [wireBytes, unsent, packets, hwrites, hwaiting, hwire, hhellos, hencrypted, herrors]
    exact h.bytes
  · simp only [wireBytes, packets, hwire, hhellos, hencrypted]
    exact h.sent

/-- While a packet is to be written next, nothing else is being written. -/
lemma InOrder.no_writes {c : Conn QString Ctx} (h : c.InOrder) (hle : c.opening + c.finishes ≤ 1)
    (hnext : c.connecting ≠ .idle ∨ 0 < c.helloReads) :
    c.writes = [] ∧ .asyncWrite ∉ c.errors ∧ c.finishes = 0 := by
  have hcount : c.writes.countP WriteOp.isRequest = 0 ∧ 0 < c.opening := by
    rcases hnext with hne | hpos
    · simp only [Conn.opening, if_neg hne] at hle ⊢
      omega
    · simp only [Conn.opening] at hle ⊢
      omega
  obtain ⟨herr, hall⟩ := h.opening hcount.2
  have hlen := List.countP_eq_length.mpr hall
  exact ⟨List.length_eq_zero_iff.mp (by omega), herr, by omega⟩

lemma InOrder.rest {c : Conn QString Ctx} (h : c.InOrder) {i : ℕ} {op : WriteOp}
    (hop : c.writes[i]? = some op) (hne : op.data ≠ []) (j : ℕ) (op' : WriteOp)
    (hop' : c.writes[j]? = some op') (hj : j ≠ i) : op'.data = [] := by
  by_contra hne'
  have hi := h.last i op hop hne
  have hj' := h.last j op' hop' hne'
  omega

lemma InOrder.eraseIdx_last {c : Conn QString Ctx} (h : c.InOrder) {i : ℕ} {op : WriteOp}
    (hop : c.writes[i]? = some op) (j : ℕ) (op' : WriteOp)
    (hop' : (c.writes.eraseIdx i)[j]? = some op') (hne : op'.data ≠ []) :
    j + 1 = (c.writes.eraseIdx i).length := by
  have hi := (List.getElem?_eq_some_iff.mp hop).1
  rw [List.getElem?_eraseIdx] at hop'
  rw [List.length_eraseIdx_of_lt hi]
  split at hop'
  · have := h.last j op' hop' hne
    omega
  · have := h.last (j + 1) op' hop' hne
    omega

lemma InOrder.writeDone {c c' : Conn QString Ctx} (h : c.InOrder) {i : ℕ} {op : WriteOp}
    (hop : c.writes[i]? = some op) (hdone : op.data = []) (hopening : c'.opening ≤ c.opening)
    (hfin : c'.finishes = c.finishes) (hwrites : c'.writes = c.writes.eraseIdx i)
    (hwaiting : c'.waiting = c.waiting) (hwire : c'.wire = c.wire) (hhellos : c'.hellos = c.hellos)
    (hencrypted : c'.encrypted = c.encrypted) (herrors : c'.errors = c.errors) : c'.InOrder := by
  refine ⟨?_, ?_, ?_, ?_, ?_, ?_⟩
  · intro hpos
    obtain ⟨herr, hall⟩ := h.opening (by omega)
    rw [herrors, hwrites]
    exact ⟨herr, fun op hmem => hall op (List.mem_of_mem_eraseIdx hmem)⟩
  · rw [hfin, hencrypted, hwaiting]
    exact h.waiting
  · rw [hwrites]
    exact h.eraseIdx_last hop
  · rw [herrors, hwrites]
    exact fun herr op hmem => h.failed herr op (List.mem_of_mem_eraseIdx hmem)
  · simp only [wireBytes, unsent, packets, hwrites, hwaiting, hwire, hhellos, hencrypted, herrors,
      flatMap_eraseIdx_of_nil hop hdone]
    exact h.bytes
  · simp only [wireBytes, packets, hwire, hhellos, hencrypted]
    exact h.sent

lemma last_append {writes : List WriteOp} (hdone : ∀ op ∈ writes, op.data = []) (new : WriteOp)
    (i : ℕ) (op : WriteOp) (hop : (writes ++ [new])[i]? = some op) (hne : op.data ≠ []) :
    i + 1 = (writes ++ [new]).length := by
  rcases getElem?_snoc_cases hop with ⟨hi, _⟩ | hold
  · simp [hi]
  · exact absurd (hdone op (List.mem_of_getElem? hold)) hne

lemma flatMap_data_of_done {writes : List WriteOp} (hdone : ∀ op ∈ writes, op.data = []) :
    writes.flatMap WriteOp.data = [] :=
  List.flatMap_eq_nil_iff.mpr hdone

/-- What keeps the order when a frame is given to `async_write`. -/
def InTurn (c : Conn QString Ctx) (j : ℕ) : Prop :=
  j = 0 ∧ 0 < c.finishes ∧ (∀ op ∈ c.writes, op.data = []) ∧ .asyncWrite ∉ c.errors

lemma InOrder.packet {c c' : Conn QString Ctx} (h : c.InOrder)
    (hnone : c.writes = [] ∧ .asyncWrite ∉ c.errors ∧ c.finishes = 0)
    (hp : HelloPacket (List UInt8)) (hreq : 0 < c'.opening → hp.type = 1)
    (hwrites : c'.writes = [⟨some hp.type, hp.pack⟩]) (hwaiting : c'.waiting = c.waiting)
    (hwire : c'.wire = c.wire) (hhellos : c'.hellos = c.hellos ++ [hp])
    (hencrypted : c'.encrypted = c.encrypted) (herrors : c'.errors = c.errors) : c'.InOrder := by
  obtain ⟨hw, herr, hzero⟩ := hnone
  have hsame := h.waiting hzero
  have hwb : c.wireBytes = c.packets := by
    have hbytes := h.bytes herr
    rw [unsent, hw, List.flatMap_nil, List.append_nil, ← hsame] at hbytes
    exact List.append_cancel_right hbytes
  have hwb' : c'.wireBytes = c.wireBytes := by rw [wireBytes, wireBytes, hwire]
  have hpk : c'.packets = c.packets ++ hp.pack := by simp [packets, hhellos]
  refine ⟨?_, ?_, ?_, ?_, ?_, ?_⟩
  · intro hpos
    rw [herrors, hwrites]
    refine ⟨herr, ?_⟩
    intro op hmem
    rw [List.mem_singleton.mp hmem]
    simp [WriteOp.isRequest, hreq hpos]
  · intro _
    rw [hencrypted, hwaiting, hsame]
  · rw [hwrites]
    exact @last_append [] (by simp) _
  · intro herr'
    rw [herrors] at herr'
    exact absurd herr' herr
  · intro _
    rw [hwb', hwb, hpk, unsent, hwrites, hwaiting, hencrypted, hsame]
    simp
  · rw [hwb', hwb, hpk, List.append_assoc]
    exact List.prefix_append _ _

lemma InOrder.start {c c' : Conn QString Ctx} (h : c.InOrder) (hopening : c'.opening = 0)
    (hfin : 0 < c'.finishes) (hdone : ∀ op ∈ c.writes, op.data = []) (herr : .asyncWrite ∉ c.errors)
    {data : List UInt8} (hwriting : c'.writes = c.writes ++ [⟨none, data⟩])
    (hwaiting : c.waiting = data :: c'.waiting) (hwire : c'.wire = c.wire)
    (hhellos : c'.hellos = c.hellos) (hencrypted : c'.encrypted = c.encrypted)
    (herrors : c'.errors = c.errors) : c'.InOrder := by
  refine ⟨?_, ?_, ?_, ?_, ?_, ?_⟩
  · omega
  · omega
  · rw [hwriting]
    exact last_append hdone _
  · rw [herrors]
    exact fun herr' => absurd herr' herr
  · intro _
    have hbytes := h.bytes herr
    simp only [unsent, flatMap_data_of_done hdone, List.append_nil, hwaiting] at hbytes
    simp only [wireBytes, unsent, packets, hwire, hhellos, hencrypted, hwriting,
      List.flatMap_append, flatMap_data_of_done hdone]
    simpa [wireBytes, packets] using hbytes
  · simp only [wireBytes, packets, hwire, hhellos, hencrypted]
    exact h.sent

lemma InOrder.unsent_set {c : Conn QString Ctx} (h : c.InOrder) {i : ℕ} {op : WriteOp}
    (hop : c.writes[i]? = some op) (hne : op.data ≠ []) (new : WriteOp) :
    c.unsent = op.data ∧ (c.writes.set i new).flatMap WriteOp.data = new.data := by
  obtain ⟨hi, hget⟩ := List.getElem?_eq_some_iff.mp hop
  have hset := flatMap_set_of_rest hi (h.rest hop hne) op
  rw [← hget, List.set_getElem_self, hget] at hset
  exact ⟨hset, flatMap_set_of_rest hi (h.rest hop hne) new⟩

lemma InOrder.writeSome {c : Conn QString Ctx} (h : c.InOrder) {i : ℕ} {op : WriteOp}
    (hop : c.writes[i]? = some op) (hne : op.data ≠ []) (n : ℕ) :
    InOrder { c with
      wire := c.wire ++ (op.data.take n).map (⟨op.hello.isSome, ·⟩)
      writes := c.writes.set i { op with data := op.data.drop n } } := by
  have herr : .asyncWrite ∉ c.errors :=
    fun herr => hne (h.failed herr op (List.mem_of_getElem? hop))
  obtain ⟨hunsent, hun⟩ := h.unsent_set hop hne { op with data := op.data.drop n }
  have hbytes := h.bytes herr
  rw [hunsent, ← List.take_append_drop n op.data] at hbytes
  have hwb : (c.wire ++ (op.data.take n).map (WireByte.mk op.hello.isSome)).map WireByte.byte =
      c.wireBytes ++ op.data.take n := by
    simp [wireBytes, Function.comp_def]
  refine ⟨?_, h.waiting, ?_, fun herr' => absurd herr' herr, fun _ => ?_, ?_⟩
  · intro hpos
    have hcount := countP_set_of_eq WriteOp.isRequest
      (b := { op with data := op.data.drop n }) hop rfl
    simp only [Conn.opening, helloReads, hcount] at hpos
    obtain ⟨herr, hall⟩ := h.opening hpos
    refine ⟨herr, ?_⟩
    intro op' hmem
    rcases List.mem_or_eq_of_mem_set hmem with hold | rfl
    · exact hall op' hold
    · exact hall op (List.mem_of_getElem? hop)
  · intro j op' hop' hne'
    simp only [List.length_set]
    rcases getElem?_set_cases hop' with ⟨rfl, _⟩ | ⟨_, hold⟩
    · exact h.last j op hop hne
    · exact h.last j op' hold hne'
  · change (c.wire ++ (op.data.take n).map (WireByte.mk op.hello.isSome)).map WireByte.byte ++
      (c.writes.set i { op with data := op.data.drop n }).flatMap WriteOp.data ++ _ = _
    rw [hwb, hun, List.append_assoc c.wireBytes]
    exact hbytes
  · refine ⟨op.data.drop n ++ c.waiting.flatten, ?_⟩
    change (c.wire ++ (op.data.take n).map (WireByte.mk op.hello.isSome)).map WireByte.byte ++ _ = _
    rw [hwb, ← List.append_assoc, List.append_assoc c.wireBytes]
    exact hbytes

lemma InOrder.writeFail {c : Conn QString Ctx} (h : c.InOrder)
    (hle : c.opening + c.finishes ≤ 1) {i : ℕ} {op : WriteOp} (hop : c.writes[i]? = some op)
    (hne : op.data ≠ []) :
    InOrder { c with
      writes := c.writes.eraseIdx i
      errors := c.errors ++ [.asyncWrite] } := by
  have hcount := countP_eraseIdx_add WriteOp.isRequest hop
  refine ⟨?_, h.waiting, h.eraseIdx_last hop, ?_, ?_, h.sent⟩
  · intro hpos
    have hpos' : 0 < c.opening := by
      simp only [Conn.opening, helloReads] at hpos ⊢
      omega
    have hreq := (h.opening hpos').2 op (List.mem_of_getElem? hop)
    rw [hreq, if_pos rfl] at hcount
    simp only [Conn.opening, helloReads] at hle hpos
    omega
  · intro _ op' hmem
    obtain ⟨j, hj⟩ := List.mem_iff_getElem?.mp hmem
    by_contra hne'
    have hlast := h.eraseIdx_last hop j op' hj hne'
    have hi := h.last i op hop hne
    rw [List.length_eraseIdx_of_lt (by omega)] at hlast
    rw [List.getElem?_eraseIdx, if_pos (by omega)] at hj
    exact hne' (h.rest hop hne j op' hj (by omega))
  · intro herr
    simp at herr

theorem InOrder.step {contains : List UInt8 → Bool} {c c' : Conn QString Ctx}
    {ev : SocketEvent} {effs : List (Effect (List UInt8) QString)}
    (hopening : c.opening + c.finishes ≤ 1) (hopening' : c'.opening + c'.finishes ≤ 1)
    (h : c.InOrder) (hs : Step P contains c ev c' effs)
    (hguard : ∀ j, ev = .startWrite j → c.InTurn j) : c'.InOrder := by
  have hle := hs.opening_le
  have hfin := hs.finishes_le
  cases hs with
  | connectDone hc _ =>
    have hnone := h.no_writes hopening (Or.inl (by simp [hc]))
    refine h.packet hnone (c.sess.helloPacket P 1) (fun _ => rfl) ?_ rfl rfl rfl rfl rfl
    rw [hnone.1]
    rfl
  | @finished i op hop _ hh _ _ _ =>
    have hnone := h.no_writes hopening (Or.inr (helloReads_pos hop hh))
    have hfin' : ∀ calls : List (ClientCall QString), ∀ id : QString,
        0 < (calls ++ [ClientCall.onHandShakeFinished id]).countP ClientCall.isFinished := by
      simp [ClientCall.isFinished]
    by_cases ht : op.hello.type = 1
    · have hreply : c.sess.reply P op.hello =
          [((c.sess.agree P op.hello).initChaCha20 P).helloPacket P 2] := if_pos ht
      refine h.packet hnone (((c.sess.agree P op.hello).initChaCha20 P).helloPacket P 2) ?_ ?_ rfl
        rfl ?_ rfl rfl
      · intro hpos
        have hzero := hfin' c.calls (c.sess.adoptPeer P op.hello).id
        simp only [finishes] at hopening'
        omega
      · simp only [hnone.1, hreply]
        rfl
      · simp only [hreply]
    · have hreply : c.sess.reply P op.hello = [] := if_neg ht
      refine h.frame hle hfin ?_ rfl rfl ?_ rfl Iff.rfl
      · simp [hreply]
      · simp [hreply]
  | @writeSome i n op hop _ hn hlen =>
    exact h.writeSome hop (List.ne_nil_of_length_pos (by omega)) n
  | writeFail hop hne => exact h.writeFail hopening hop hne
  | @startWrite j data hd =>
    obtain ⟨rfl, hpos, hdone, herr⟩ := hguard j rfl
    obtain ⟨rest, hrest⟩ : ∃ rest, c.waiting = data :: rest := by
      cases hw : c.waiting with
      | nil => simp [hw] at hd
      | cons data' rest => exact ⟨rest, by simpa [hw] using hd⟩
    refine h.start ?_ (by omega) hdone herr rfl ?_ rfl rfl rfl rfl
    · omega
    · rw [hrest]
      rfl
  | requestDone hop =>
    exact h.writeDone hop rfl hle rfl rfl rfl rfl rfl rfl rfl
  | writeDone hop hd _ =>
    exact h.writeDone hop hd hle rfl rfl rfl rfl rfl rfl rfl
  | connectAborted _ _ => exact h.frame hle hfin rfl rfl rfl rfl rfl (by simp)
  | connectFail _ => exact h.frame hle hfin rfl rfl rfl rfl rfl (by simp)
  | readFail _ _ => exact h.frame hle hfin rfl rfl rfl rfl rfl (by simp)
  | _ => exact h.frame hle hfin rfl rfl rfl rfl rfl Iff.rfl

lemma InOrder.encrypt {c : Conn QString Ctx} (h : c.InOrder)
    (sess : ChatSession (List UInt8) QString Ctx) (frame : List UInt8) :
    InOrder { c with
      sess := sess
      waiting := c.waiting ++ [frame]
      encrypted := c.encrypted ++ [frame] } := by
  refine ⟨h.opening, ?_, h.last, h.failed, ?_, ?_⟩
  · intro hzero
    have hsame := h.waiting hzero
    simp only [hsame]
  · intro herr
    have hbytes := h.bytes herr
    simp only [List.flatten_append, ← List.append_assoc]
    exact congrArg (· ++ _) hbytes
  · refine h.sent.trans ?_
    simp only [List.flatten_append, ← List.append_assoc]
    exact List.prefix_append _ _

lemma InOrder.encryptText {c : Conn QString Ctx} (h : c.InOrder) (text : QString) :
    (c.encryptText P text).InOrder :=
  h.encrypt _ _

lemma InOrder.writeMsg {c : Conn QString Ctx} (h : c.InOrder) (hopening : c.opening = 0)
    (hfin : 0 < c.finishes) (hdone : ∀ op ∈ c.writes, op.data = []) (herr : .asyncWrite ∉ c.errors)
    (hwaiting : c.waiting = []) (msg : List UInt8) (size : UInt16) :
    (c.writeMsg P msg size).InOrder := by
  have hstart := h.encrypt (c.sess.writeMsg P msg size).1 (c.sess.encryptMsg P msg size).2
  refine hstart.start ?_ hfin hdone herr rfl ?_ rfl rfl rfl rfl
  · have hcount : (c.writes ++ [WriteOp.mk none (c.sess.encryptMsg P msg size).2]).countP
        WriteOp.isRequest = c.writes.countP WriteOp.isRequest := by
      simp [WriteOp.isRequest]
    rw [← hopening]
    exact congrArg (fun n => (if c.connecting = .idle then 0 else 1) + n + c.helloReads) hcount
  · simp [hwaiting, Conn.writeMsg, ChatSession.writeMsg, performAll, perform]

end Conn

namespace Endpoint

variable [DecidableEq QString]

/-- The condition on an event that keeps the wire in order: every frame is started in its turn. -/
def StartsInTurn (e : Endpoint QString Ctx) : Event QString Ctx → Prop
  | .socket s (.startWrite j) => ∀ c ∈ e.sessions[s]?, c.InTurn j
  | _ => True

instance (c : Conn QString Ctx) (j : ℕ) : Decidable (c.InTurn j) :=
  inferInstanceAs (Decidable (_ ∧ _ ∧ (∀ op ∈ c.writes, _ = _) ∧ _))

instance (e : Endpoint QString Ctx) : (ev : Event QString Ctx) → Decidable (StartsInTurn e ev)
  | .socket s (.startWrite j) => inferInstanceAs (Decidable (∀ c ∈ e.sessions[s]?, c.InTurn j))
  | .accept _ _ _ | .doConnect _ _ _ _ | .sendTextMsg _ _ | .close | .updatePeerList _
  | .setEcKey _ _ | .setName _ =>
    .isTrue trivial
  | .socket _ .connectOk | .socket _ .connectDone | .socket _ .connectFail
  | .socket _ (.writeSome _ _) | .socket _ (.writeDone _) | .socket _ (.writeFail _)
  | .socket _ (.readSome _ _) | .socket _ (.readDone _) | .socket _ (.readFail _) =>
    .isTrue trivial

variable {P : Primitives (List UInt8) QString Ctx} {role : Role} {name : QString}
  {es : List (Event QString Ctx)} {e : Endpoint QString Ctx}

lemma inOrder (h : GuardedRuns P StartsInTurn role name es e) {s : ℕ} {c : Conn QString Ctx}
    (hc : e.sessions[s]? = some c) : c.InOrder := by
  have hrule : SessionRule P StartsInTurn role name (fun _ _ c => c.InOrder) :=
    { mono := fun _ _ _ _ h => h
      accept := fun _ _ _ _ _ _ _ => Conn.InOrder.new rfl rfl rfl rfl rfl rfl
      connect := fun _ _ _ _ _ _ _ _ _ => Conn.InOrder.new rfl rfl rfl rfl rfl rfl
      step := ?_
      closed := fun _ _ c h => h.frame (Nat.le_refl _) (by
        simp [Conn.closed_eq, Conn.finishes, ClientCall.isFinished]) rfl rfl rfl rfl rfl Iff.rfl
      encrypt := ?_ }
  · exact hrule.holds P h s c hc
  · intro es e s c ev c' effs hr hc hconn hguard _ h
    have hord := ordered P hr hc
    refine h.step hord.opening (hord.step P hconn).opening hconn ?_
    rintro j rfl
    exact hguard c hc
  · intro es e s c id text _ _ _ _ h
    exact h.encryptText text

/-- As long as every frame is started in its turn, the bytes on the wire are the packets of the
session followed by its frames in the order of their encryption, cut off at some point, and they
are all of these once everything has been transferred. -/
theorem wire_in_order (h : GuardedRuns P StartsInTurn role name es e) {s : ℕ}
    {c : Conn QString Ctx} (hc : e.sessions[s]? = some c) :
    c.wireBytes <+: c.packets ++ c.encrypted.flatten ∧
    ((∀ op ∈ c.writes, op.data = []) → c.waiting = [] → .asyncWrite ∉ c.errors →
      c.wireBytes = c.packets ++ c.encrypted.flatten) := by
  have horder := inOrder h hc
  refine ⟨horder.sent, ?_⟩
  intro hdone hwaiting herr
  have hbytes := horder.bytes herr
  rwa [Conn.unsent, Conn.flatMap_data_of_done hdone, hwaiting, List.append_nil, List.flatten_nil,
    List.append_nil] at hbytes

/-- A server that answers its peer and then sends two texts one after the other. -/
theorem wire_in_order_two_texts :
    ∃ (es : List (Event (List UInt8) ChachaContext)) (e : Endpoint (List UInt8) ChachaContext)
      (c : Conn (List UInt8) ChachaContext),
      GuardedRuns samplePrimitives StartsInTurn .chatServer [] es e ∧ e.sessions[0]? = some c ∧
      c.encrypted.length = 2 ∧ c.wireBytes = c.packets ++ c.encrypted.flatten := by
  let test (e : Endpoint (List UInt8) ChachaContext) : Bool :=
    (e.sessions[0]?).any fun c => decide (∀ op ∈ c.writes, op.data = []) &&
      decide (c.waiting = []) && decide (.asyncWrite ∉ c.errors) && decide (c.encrypted.length = 2)
  obtain ⟨e, hrun, hp⟩ := exists_guarded_run_of_exec (Endpoint.step samplePrimitives) StartsInTurn
    [.updatePeerList [⟨[], sampleKey 7, [], 0⟩],
      .accept (sampleKey 3) sampleContext sampleContext,
      .socket 0 (.readSome 0 (sampleHello 1 7 5).pack), .socket 0 (.readDone 0),
      .sendTextMsg (sampleKey 7) [104], .sendTextMsg (sampleKey 7) [105],
      .socket 0 (.writeSome 0 165), .socket 0 (.startWrite 0), .socket 0 (.writeSome 1 5),
      .socket 0 (.startWrite 0), .socket 0 (.writeSome 2 5)]
    test (s := Endpoint.init .chatServer []) (by decide +kernel)
  obtain ⟨c, hc, hp⟩ := (Option.any_eq_true _ _).mp hp
  simp only [Bool.and_eq_true, decide_eq_true_eq] at hp
  obtain ⟨⟨⟨hdone, hwaiting⟩, herr⟩, hlen⟩ := hp
  exact ⟨_, e, c, hrun, hc, hlen, (wire_in_order hrun hc).2 hdone hwaiting herr⟩

/-- Two threads encrypt a text each, and the second one starts its write first. The frames reach
the wire in the other order than the one in which they were encrypted. -/
theorem overtaking_frame :
    ∃ (es : List (Event (List UInt8) ChachaContext)) (e : Endpoint (List UInt8) ChachaContext)
      (c : Conn (List UInt8) ChachaContext) (frame₁ frame₂ : List UInt8),
      Runs samplePrimitives .chatServer [] es e ∧ e.sessions[0]? = some c ∧ c.errors = [] ∧
      c.encrypted = [frame₁, frame₂] ∧ c.wireBytes = c.packets ++ frame₂ ++ frame₁ ∧
      ¬c.wireBytes <+: c.packets ++ c.encrypted.flatten := by
  let test (e : Endpoint (List UInt8) ChachaContext) : Bool :=
    (e.sessions[0]?).any fun c => decide (c.errors = []) &&
      match c.encrypted with
      | [frame₁, frame₂] => decide (c.wireBytes = c.packets ++ frame₂ ++ frame₁) &&
        decide (¬c.wireBytes <+: c.packets ++ c.encrypted.flatten)
      | _ => false
  obtain ⟨e, hrun, hp⟩ := exists_run_of_exec (Endpoint.step samplePrimitives)
    [.updatePeerList [⟨[], sampleKey 7, [], 0⟩],
      .accept (sampleKey 3) sampleContext sampleContext,
      .socket 0 (.readSome 0 (sampleHello 1 7 5).pack), .socket 0 (.readDone 0),
      .socket 0 (.writeSome 0 165), .sendTextMsg (sampleKey 7) [104],
      .sendTextMsg (sampleKey 7) [105], .socket 0 (.startWrite 1), .socket 0 (.writeSome 1 5),
      .socket 0 (.startWrite 0), .socket 0 (.writeSome 2 5)]
    test (s := Endpoint.init .chatServer []) (by decide +kernel)
  obtain ⟨c, hc, hp⟩ := (Option.any_eq_true _ _).mp hp
  simp only [Bool.and_eq_true, decide_eq_true_eq] at hp
  obtain ⟨herr, hp⟩ := hp
  split at hp
  · rename_i frame₁ frame₂ henc
    simp only [Bool.and_eq_true, decide_eq_true_eq] at hp
    exact ⟨_, e, c, frame₁, frame₂, hrun, hc, herr, henc, hp.1, hp.2⟩
  · cases hp

end Endpoint

end Enchat
