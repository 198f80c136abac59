import Enchat.Proofs.Delivery
import Enchat.Proofs.KeystreamLimit

/-!
# The keystream positions of a sender and its reader

`writeMsg` encrypts the payload whatever stands in the protocol field, `handleReadMsg` decrypts
frames of protocol 1 only. The reader falls behind at the first other frame that has a payload.
-/

namespace Enchat
open Buffer Transition

variable {QString Ctx : Type} {P : Primitives (List UInt8) QString Ctx} {C : StreamCipher Ctx}

namespace ChachaContext

/-- The keystream position at which the next byte is encrypted or decrypted. -/
def next (ctx : ChachaContext) : UInt32 × ℕ := (ctx.locate 0).position

lemma locate_after (ctx : ChachaContext) (msgs : List (List UInt8)) (i : ℕ) :
    (chacha20Cipher.after ctx msgs).locate i = ctx.locate ((msgs.map List.length).sum + i) := by
  induction msgs generalizing ctx with
  | nil =>
    rw [List.map_nil, List.sum_nil, Nat.zero_add]
    rfl
  | cons m msgs ih =>
    have hfirst :=
      mbedtlsChacha20Update_follows locate_follows ctx m ((msgs.map List.length).sum + i)
    rw [List.map_cons, List.sum_cons, Nat.add_assoc, ← hfirst]
    exact ih _

/-- Two sequences of inputs lead to one position when their lengths agree up to the period. -/
lemma next_after_eq_iff (ctx : ChachaContext) (key : List UInt8) (msgs msgs' : List (List UInt8)) :
    (chacha20Cipher.after (ctx.started key) msgs).next =
        (chacha20Cipher.after (ctx.started key) msgs').next ↔
      (msgs.map List.length).sum % 2 ^ 38 = (msgs'.map List.length).sum % 2 ^ 38 := by
  unfold next
  rw [locate_after, locate_after, position_started, position_started, position_eq_iff,
    Nat.add_zero, Nat.add_zero]

end ChachaContext

/-- Protocol field and payload length of a frame. -/
def frameHeader (f : List UInt8) : ℕ × ℕ := (getU16 f 2, (f.drop 4).length)

def WriteCall.header (call : WriteCall) : ℕ × ℕ := (call.protocol, call.payload.length)

/-- The bytes that the sender encrypts and the reader does not decrypt. -/
def skipped : List (ℕ × ℕ) → ℕ
  | [] => 0
  | (protocol, length) :: headers => (if protocol = 1 then 0 else length) + skipped headers

lemma skipped_append (hs hs' : List (ℕ × ℕ)) : skipped (hs ++ hs') = skipped hs + skipped hs' := by
  induction hs with
  | nil => rw [List.nil_append, skipped, Nat.zero_add]
  | cons h hs ih => rw [List.cons_append, skipped, skipped, ih, Nat.add_assoc]

/-- The reader stays in step over such a header. -/
def Harmless (header : ℕ × ℕ) : Prop := header.1 = 1 ∨ header.2 = 0

lemma skipped_eq_zero {headers : List (ℕ × ℕ)} (h : ∀ header ∈ headers, Harmless header) :
    skipped headers = 0 := by
  induction headers with
  | nil => rfl
  | cons header headers ih =>
    rw [skipped, ih (fun header' hmem => h header' (List.mem_cons_of_mem _ hmem)), Nat.add_zero]
    rcases h header List.mem_cons_self with hprotocol | hempty
    · exact if_pos hprotocol
    · rw [hempty, ite_self]

/-- The first header that is not harmless shows at once: it is too short for the period. -/
lemma harmless_snoc_iff {headers : List (ℕ × ℕ)} {header : ℕ × ℕ} (hshort : header.2 ≤ 4091) :
    (∀ header' ∈ headers ++ [header], Harmless header') ↔
      (∀ header' ∈ headers, Harmless header') ∧ skipped (headers ++ [header]) % 2 ^ 38 = 0 := by
  rw [List.forall_mem_append, List.forall_mem_singleton]
  refine and_congr_right (fun hall => ?_)
  rw [skipped_append, skipped_eq_zero hall, skipped, skipped, Harmless]
  split <;> omega

/-- The payloads that the reader decrypts. -/
def decrypted (frames : List (List UInt8)) : List (List UInt8) :=
  (frames.filter (fun f => getU16 f 2 = 1)).map (List.drop 4)

lemma decrypted_cons (f : List UInt8) (frames : List (List UInt8)) :
    decrypted (f :: frames) =
      if getU16 f 2 = 1 then f.drop 4 :: decrypted frames else decrypted frames := by
  unfold decrypted
  by_cases hprotocol : getU16 f 2 = 1 <;> simp [hprotocol]

lemma receiveFrames_context (d : Ctx) (frames : List (List UInt8)) :
    (receiveFrames C d frames).1 = C.after d (decrypted frames) := by
  induction frames generalizing d with
  | nil => rfl
  | cons f frames ih =>
    rw [receiveFrames, decrypted_cons, ih, receiveFrame]
    split <;> rfl

lemma length_decrypted (frames : List (List UInt8)) :
    ((decrypted frames).map List.length).sum + skipped (frames.map frameHeader) =
      (frames.map (fun f => (f.drop 4).length)).sum := by
  induction frames with
  | nil => rfl
  | cons f frames ih =>
    rw [List.map_cons, List.map_cons, List.sum_cons, ← ih, frameHeader, skipped, decrypted_cons]
    split
    · rw [List.map_cons, List.sum_cons]
      omega
    · omega

namespace Conn

/-- What a session has encrypted, whatever the protocol fields are. -/
structure Framed (C : StreamCipher Ctx) (e : Ctx) (c : Conn QString Ctx)
    (sent : List (List UInt8)) : Prop where
  context : c.sess.chachaEctx = C.after e sent
  isFrame : ∀ f ∈ c.encrypted, msgFraming.IsFrame f
  lengths : c.encrypted.map (fun f => (f.drop 4).length) = sent.map List.length
  short : ∀ f ∈ c.encrypted, (f.drop 4).length ≤ 4091

/-- The frame of a call keeps protocol field and length. -/
lemma encryptMsg_header (hC : P.mbedtlsChacha20Update = C.update)
    (s : ChatSession (List UInt8) QString Ctx) {call : WriteCall}
    (hlen : call.size.toNat + 4 ≤ call.msg.length) :
    msgFraming.IsFrame (s.encryptMsg P call.msg call.size).2 ∧
      frameHeader (s.encryptMsg P call.msg call.size).2 = call.header ∧
      call.payload.length = call.size.toNat := by
  have hpayload : call.payload.length = call.size.toNat := by
    rw [WriteCall.payload, List.length_take, List.length_drop]
    omega
  have hprotocol : ((call.msg.drop 2).take 2).length = 2 := by
    rw [List.length_take, List.length_drop]
    omega
  have hfield : getU16 ((call.msg.drop 2).take 2) 0 = call.protocol := by
    rw [WriteCall.protocol, ← getU16_drop call.msg]
    apply getU16_congr
    rw [List.take_take, Nat.zero_add, Nat.min_self]
  have hcipher := C.length_update s.chachaEctx call.payload
  rw [encryptMsg_frame hC s hlen]
  change msgFraming.IsFrame (putU16 call.size ++ _ ++ (C.update s.chachaEctx call.payload).2) ∧
    frameHeader (putU16 call.size ++ _ ++ (C.update s.chachaEctx call.payload).2) = _ ∧ _
  generalize (call.msg.drop 2).take 2 = protocol at hprotocol hfield
  generalize (C.update s.chachaEctx call.payload).2 = cipher at hcipher
  have hfour : (putU16 call.size ++ protocol).length = 4 := by
    rw [List.length_append, length_putU16, hprotocol]
  refine ⟨?_, ?_, hpayload⟩
  · change (putU16 call.size ++ protocol ++ cipher).length =
      getU16 (putU16 call.size ++ protocol ++ cipher) 0 + 4
    rw [List.length_append, hfour, hcipher, hpayload, List.append_assoc, getU16_putU16]
    omega
  · have hsecond : getU16 (putU16 call.size ++ protocol ++ cipher) 2 = call.protocol := by
      rw [← getU16_drop, List.append_assoc, List.drop_left' (length_putU16 _), ← hfield]
      apply getU16_congr
      rw [List.take_append_of_le_length (by omega)]
    rw [frameHeader, WriteCall.header, hsecond, List.drop_left' hfour, hcipher]

lemma Framed.writeMsg (hC : P.mbedtlsChacha20Update = C.update) {e : Ctx} {c : Conn QString Ctx}
    {sent : List (List UInt8)} (h : c.Framed C e sent) {call : WriteCall}
    (hsize : call.size.toNat ≤ 4091) (hlen : call.size.toNat + 4 ≤ call.msg.length) :
    (c.writeMsg P call.msg call.size).Framed C e (sent ++ [call.payload]) := by
  obtain ⟨hframe, hheader, hpayload⟩ := encryptMsg_header hC c.sess hlen
  have hlength := congrArg Prod.snd hheader
  have hencrypted : (c.writeMsg P call.msg call.size).encrypted =
      c.encrypted ++ [(c.sess.encryptMsg P call.msg call.size).2] := rfl
  refine ⟨?_, ?_, ?_, ?_⟩
  · rw [C.after_snoc, ← h.context]
    exact congrArg (fun r => r.1.chachaEctx) (encryptMsg_frame hC c.sess hlen)
  · rw [hencrypted, List.forall_mem_append]
    exact ⟨h.isFrame, fun f hmem => List.mem_singleton.mp hmem ▸ hframe⟩
  · rw [hencrypted, List.map_append, List.map_append, h.lengths]
    exact congrArg (fun n => sent.map List.length ++ [n]) hlength
  · rw [hencrypted, List.forall_mem_append]
    refine ⟨h.short, fun f hmem => ?_⟩
    rw [List.mem_singleton.mp hmem]
    exact hlength.trans_le (hpayload.trans_le hsize)

/-- A step of the socket handles one frame or none. -/
lemma Step.handled_cases {contains : List UInt8 → Bool} {c c' : Conn QString Ctx}
    {ev : SocketEvent} {effs : List (Effect (List UInt8) QString)}
    (hs : Step P contains c ev c' effs) :
    c'.handled = c.handled ∨ ∃ msg, c'.handled = c.handled ++ [msg] := by
  cases hs with
  | bodyDone _ _ _ _ => exact Or.inr ⟨_, rfl⟩
  | bodySkipped _ _ _ _ => exact Or.inr ⟨_, rfl⟩
  | _ => exact Or.inl rfl

end Conn

namespace Link

/-- What a call of `stepAny` may give to `writeMsg`. -/
def FitsAny (P : Primitives (List UInt8) QString Ctx) (ev : LinkEvent QString) (call : WriteCall) :
    Prop :=
  ev.call P = some call ∧ call.size.toNat ≤ 4091 ∧ call.size.toNat + 4 ≤ call.msg.length

lemma stepAny_moves {l l' : Link QString Ctx} {ev : LinkEvent QString}
    (h : StepOf (Link.stepAny P) l ev l') : Moves P (FitsAny P ev) l ev l' := by
  cases ev with
  | writeMsg call =>
    simp only [StepOf, stepAny] at h
    split at h
    · rename_i hc
      obtain rfl := Option.some.inj h
      exact Moves.write ⟨rfl, hc.1, hc.2⟩ id
    · cases h
  | sendTextMsg side text =>
    simp only [StepOf, stepAny] at h
    split at h
    · rename_i hshort
      cases step_step h with
      | sendTextMsg hlen =>
        obtain ⟨_, _, hmsg, _⟩ := textCall_spec side hlen
        have hsize : (textCall P side text).size.toNat ≤ 4091 :=
          (textMsg_eq hlen).2.trans_le hshort
        exact Moves.write ⟨rfl, hsize, hmsg⟩ id
    · cases h
  | socket side sev =>
    have hstep : StepOf (Link.step P) l (.socket side sev) l' := h
    cases step_step hstep with
    | socket hs => exact Moves.socket rfl hs

/-- What a state of a link owes to its past, when frames of any protocol are sent. -/
structure Carries (P : Primitives (List UInt8) QString Ctx) (C : StreamCipher Ctx) (ctx : Ctx)
    (l : Link QString Ctx) : Prop where
  talking : ∀ side, (l.conn side).Talking
  framed : ∀ side, (l.conn side).Framed C ctx (l.sent side)
  positions : ∀ side, l.positions side = C.contexts ctx (l.sent side)
  receiving : ∀ side, ∃ frames part,
    (l.conn side).Receiving P C ctx (l.received side) frames part

lemma Carries.moves (hC : P.mbedtlsChacha20Update = C.update) {ctx : Ctx} {l l' : Link QString Ctx}
    {ev : LinkEvent QString} (h : l.Carries P C ctx) (hs : Moves P (FitsAny P ev) l ev l') :
    l'.Carries P C ctx := by
  have hsides := Moves.keeps hC (S := fun c sent => c.Framed C ctx sent) ?_ ?_ ?_ hs
    (fun side => ⟨h.talking side, h.framed side, h.positions side, h.receiving side⟩)
  · exact ⟨fun side => (hsides side).1, fun side => (hsides side).2.1,
      fun side => (hsides side).2.2.1, fun side => (hsides side).2.2.2⟩
  · intro c sent hframed
    exact hframed.context
  · rintro c sent call hframed ⟨_, hsize, hlen⟩
    exact hframed.writeMsg hC hsize hlen
  · rintro c c' sent ⟨hcontext, hframe, hlengths, hshort⟩ hectx hencrypted
    rw [← hencrypted] at hframe hlengths hshort
    exact ⟨hectx.trans hcontext, hframe, hlengths, hshort⟩

lemma Agrees.carries_start {ctx : Ctx} {a b : ChatSession (List UInt8) QString Ctx}
    (h : (Link.start P a b).Agrees P C ctx) : (Link.start P a b).Carries P C ctx := by
  refine ⟨h.talking, fun side => ?_, h.positions, h.receiving⟩
  have hencrypted : ((Link.start P a b).conn side).encrypted = [] := (h.sending side).encrypted
  refine ⟨(h.sending side).context, ?_, ?_, ?_⟩
  all_goals rw [hencrypted]
  · nofun
  · rfl
  · nofun

lemma callsOf_snoc {ev : LinkEvent QString} {call : WriteCall} (hcall : ev.call P = some call)
    (side : Side) (es : List (LinkEvent QString)) :
    callsOf P side (es ++ [ev]) =
      callsOf P side es ++ if call.side = side then [call] else [] := by
  unfold callsOf
  rw [List.filterMap_append, List.filter_append, List.filterMap_cons_some hcall]
  by_cases hside : call.side = side <;> simp [hside]

lemma callsOf_socket (side side' : Side) (sev : SocketEvent) (es : List (LinkEvent QString)) :
    callsOf P side (es ++ [.socket side' sev]) = callsOf P side es := by
  unfold callsOf
  rw [List.filterMap_append, List.filter_append]
  exact List.append_nil _

/-- The frames of a side have the headers of the calls made on it. -/
lemma Moves.headers (hC : P.mbedtlsChacha20Update = C.update) {l l' : Link QString Ctx}
    {ev : LinkEvent QString} (hs : Moves P (FitsAny P ev) l ev l') {es : List (LinkEvent QString)}
    (htalking : ∀ side, (l.conn side).Talking)
    (h : ∀ side, (l.conn side).encrypted.map frameHeader =
      (callsOf P side es).map WriteCall.header) (side : Side) :
    (l'.conn side).encrypted.map frameHeader =
      (callsOf P side (es ++ [ev])).map WriteCall.header := by
  cases hs with
  | @write call texts hfits _ =>
    obtain ⟨hcall, _, hlen⟩ := hfits
    rw [callsOf_snoc hcall, List.map_append, ← h side]
    by_cases hside : call.side = side
    · subst hside
      obtain ⟨_, hheader, _⟩ := Conn.encryptMsg_header hC (l.conn call.side).sess hlen
      rw [if_pos rfl, List.map_singleton, ← hheader]
      simp only [Link.write, Function.update_self]
      exact List.map_append
    · simp only [Link.write, Function.update_of_ne (Ne.symm hside), if_neg hside, List.map_nil,
        List.append_nil]
  | @socket side' sev c effs hev hconn =>
    subst hev
    obtain ⟨_, hencrypted, _, _⟩ := (htalking side').step_frame hconn
    rw [callsOf_socket, ← h side]
    by_cases hside : side = side'
    · subst hside
      simp only [Function.update_self, hencrypted]
    · simp only [Function.update_of_ne hside]

lemma Moves.conn_cases {W : WriteCall → Prop} {l l' : Link QString Ctx} {ev : LinkEvent QString}
    (hs : Moves P W l ev l') (side : Side) :
    l'.conn side = l.conn side ∨
      (∃ msg size, l'.conn side = (l.conn side).writeMsg P msg size) ∨
      ∃ sev effs, Conn.Step P (fun _ => false) (l.conn side) sev (l'.conn side) effs := by
  cases hs with
  | @write call texts _ _ =>
    by_cases hside : side = call.side
    · subst hside
      exact Or.inr (Or.inl ⟨call.msg, call.size, Function.update_self ..⟩)
    · exact Or.inl (Function.update_of_ne hside ..)
  | @socket side' sev c effs _ hconn =>
    by_cases hside : side = side'
    · subst hside
      refine Or.inr (Or.inr ⟨sev, effs, ?_⟩)
      simp only [Function.update_self]
      exact hconn
    · exact Or.inl (Function.update_of_ne hside ..)

/-- How the frames that a side has sent and those that it has handled change in a step. -/
lemma Moves.grows {W : WriteCall → Prop} {l l' : Link QString Ctx} {ev : LinkEvent QString}
    (hs : Moves P W l ev l') {side : Side} (htalking : (l.conn side).Talking) :
    (l.conn side).encrypted <+: (l'.conn side).encrypted ∧
      ((l'.conn side).handled.length = (l.conn side).handled.length ∨
        (l'.conn side).handled.length = (l.conn side).handled.length + 1) := by
  rcases hs.conn_cases side with hsame | ⟨msg, size, hwrite⟩ | ⟨sev, effs, hconn⟩
  · rw [hsame]
    exact ⟨List.prefix_refl _, Or.inl rfl⟩
  · rw [hwrite]
    exact ⟨List.prefix_append _ _, Or.inl rfl⟩
  · obtain ⟨_, hencrypted, _, _⟩ := htalking.step_frame hconn
    rw [hencrypted]
    refine ⟨List.prefix_refl _, ?_⟩
    rcases hconn.handled_cases with hsame | ⟨msg, hmore⟩
    · exact Or.inl (congrArg List.length hsame)
    · rw [hmore, List.length_append]
      exact Or.inr rfl

/-- After the frames that `side` has handled, its decrypt context stands at the position of the
encrypt context of the other side after as many calls of `writeMsg`. -/
def InStep (l : Link QString ChachaContext) (side : Side) : Prop :=
  ∃ ctx, (l.positions side.other)[(l.conn side).handled.length]? = some ctx ∧
    (l.conn side).sess.chachaDctx.next = ctx.next

/-- The frames of the other side that `side` has handled. -/
def taken (l : Link QString Ctx) (side : Side) : List (List UInt8) :=
  (l.conn side.other).encrypted.take (l.conn side).handled.length

lemma Carries.taken_spec {ctx : Ctx} {l : Link QString Ctx} (h : l.Carries P C ctx)
    (hflows : l.Flows) (side : Side) :
    (l.taken side).length = (l.conn side).handled.length ∧
      (l.conn side).sess.chachaDctx = C.after ctx (decrypted (l.taken side)) := by
  obtain ⟨frames, part, hr⟩ := h.receiving side
  have hframes := hflows.frames (h.talking side.other) (h.framed side.other).isFrame hr
  have hlength : (l.conn side).handled.length = frames.length := by
    rw [hr.handled, length_receiveFrames]
  have htaken : l.taken side = frames := by
    rw [taken, hlength]
    exact (List.prefix_iff_eq_take.mp hframes).symm
  rw [htaken, hr.context, receiveFrames_context]
  exact ⟨hlength.symm, rfl⟩

lemma Carries.inStep_iff {P : Primitives (List UInt8) QString ChachaContext}
    {l : Link QString ChachaContext} {ctx : ChachaContext}
    {key : List UInt8} (h : l.Carries P chacha20Cipher (ctx.started key)) (hflows : l.Flows)
    (side : Side) : l.InStep side ↔ skipped ((l.taken side).map frameHeader) % 2 ^ 38 = 0 := by
  obtain ⟨hlength, hdctx⟩ := h.taken_spec hflows side
  have hlengths := (h.framed side.other).lengths
  have hle : (l.conn side).handled.length ≤ (l.sent side.other).length := by
    have hsame := congrArg List.length hlengths
    rw [List.length_map, List.length_map] at hsame
    rw [← hsame, ← hlength]
    exact List.length_take_le' ..
  have hsent : ((l.sent side.other).take (l.conn side).handled.length).map List.length =
      (l.taken side).map (fun f => (f.drop 4).length) := by
    rw [List.map_take, ← hlengths, taken, List.map_take]
  have hposition := chacha20Cipher.getElem?_contexts (ctx.started key) (l.sent side.other) hle
  have hsum := length_decrypted (l.taken side)
  unfold InStep
  rw [h.positions, hposition]
  simp only [Option.some.injEq, exists_eq_left']
  rw [hdctx, ChachaContext.next_after_eq_iff, hsent, ← hsum]
  omega

lemma Carries.taken_step {ctx : Ctx} {W : WriteCall → Prop} {l l' : Link QString Ctx}
    {ev : LinkEvent QString} (h : l.Carries P C ctx) (hflows : l.Flows) (h' : l'.Carries P C ctx)
    (hflows' : l'.Flows) (hs : Moves P W l ev l') (side : Side) :
    l'.taken side = l.taken side ∨
      ∃ f, l'.taken side = l.taken side ++ [f] ∧ (f.drop 4).length ≤ 4091 := by
  obtain ⟨hpre, _⟩ := hs.grows (h.talking side.other)
  obtain ⟨_, hhandled⟩ := hs.grows (h.talking side)
  have hlength := (h.taken_spec hflows side).1
  have hlength' := (h'.taken_spec hflows' side).1
  have hold : (l'.conn side.other).encrypted.take (l.conn side).handled.length = l.taken side := by
    obtain ⟨rest, hrest⟩ := hpre
    rw [← hrest, taken, List.take_append_of_le_length]
    rw [← hlength]
    exact List.length_take_le' ..
  rcases hhandled with hsame | hmore
  · left
    rw [← hold, taken, hsame]
  · right
    have hlt : (l.conn side).handled.length < (l'.conn side.other).encrypted.length := by
      rw [taken, List.length_take, hmore] at hlength'
      omega
    refine ⟨(l'.conn side.other).encrypted[(l.conn side).handled.length], ?_,
      (h'.framed side.other).short _ (List.getElem_mem hlt)⟩
    rw [← hold, taken, hmore]
    exact List.take_succ_eq_append_getElem hlt

section Runs

variable (q : Qt (List UInt8) QString) (k : Curve)
  {a b : ChatSession (List UInt8) QString ChachaContext} {es : List (LinkEvent QString)}
  {l : Link QString ChachaContext}

lemma carries (hkey : a.chacha20Key = b.chacha20Key)
    (h : Run (Guarded (StepOf (Link.stepAny (bytePrimitives q k mbedtlsChacha20))) Link.Reliable)
      (Link.start (bytePrimitives q k mbedtlsChacha20) a b) es l) :
    l.Carries (bytePrimitives q k mbedtlsChacha20) chacha20Cipher
      (a.chachaEctx.started a.chacha20Key) ∧ l.Flows := by
  have hstart := (agrees q k hkey Run.nil).carries_start
  refine h.invariant (I := fun l => l.Carries (bytePrimitives q k mbedtlsChacha20) chacha20Cipher
    (a.chachaEctx.started a.chacha20Key) ∧ l.Flows) ⟨hstart, Flows.start a b⟩ ?_
  rintro l ev l' ⟨hcarries, hflows⟩ ⟨hs, hreliable⟩
  have hmoves := stepAny_moves hs
  exact ⟨hcarries.moves rfl hmoves, hflows.moves hcarries.talking hmoves hreliable⟩

lemma headers (hkey : a.chacha20Key = b.chacha20Key)
    (h : Run (Guarded (StepOf (Link.stepAny (bytePrimitives q k mbedtlsChacha20))) Link.Reliable)
      (Link.start (bytePrimitives q k mbedtlsChacha20) a b) es l) (side : Side) :
    (l.conn side).encrypted.map frameHeader =
      (callsOf (bytePrimitives q k mbedtlsChacha20) side es).map WriteCall.header := by
  refine h.invariant_history (I := fun es l => ∀ side, (l.conn side).encrypted.map frameHeader =
    (callsOf (bytePrimitives q k mbedtlsChacha20) side es).map WriteCall.header) ?_ ?_ side
  · rintro (_ | _) <;> rfl
  · intro es l ev l' hr ih hs
    have hmoves := stepAny_moves hs.1
    exact hmoves.headers (C := chacha20Cipher) rfl (carries q k hkey hr).1.talking ih

/-- The reader has been in step all along when each frame that it has handled is harmless. -/
lemma throughout_inStep_iff (hkey : a.chacha20Key = b.chacha20Key)
    (h : Run (Guarded (StepOf (Link.stepAny (bytePrimitives q k mbedtlsChacha20))) Link.Reliable)
      (Link.start (bytePrimitives q k mbedtlsChacha20) a b) es l) (side : Side) :
    Throughout (Guarded (StepOf (Link.stepAny (bytePrimitives q k mbedtlsChacha20))) Link.Reliable)
        (Link.start (bytePrimitives q k mbedtlsChacha20) a b) es (fun l => l.InStep side) ↔
      ∀ header ∈ (l.taken side).map frameHeader, Harmless header := by
  refine h.invariant_history (I := fun es l => Throughout _ _ es (InStep · side) ↔
    ∀ header ∈ (l.taken side).map frameHeader, Harmless header) ?_ ?_
  · have hnone : (Link.start (bytePrimitives q k mbedtlsChacha20) a b).taken side = [] := by
      cases side <;> rfl
    obtain ⟨hcarries, hflows⟩ := carries q k hkey Run.nil
    rw [hnone]
    refine iff_of_true (throughout_nil ((hcarries.inStep_iff hflows side).mpr ?_)) (by simp)
    rw [hnone]
    rfl
  · intro es l ev l' hr ih hs
    obtain ⟨hcarries, hflows⟩ := carries q k hkey hr
    obtain ⟨hcarries', hflows'⟩ := carries q k hkey (hr.snoc hs)
    rw [(hr.snoc hs).throughout_snoc, ih, hcarries'.inStep_iff hflows' side]
    rcases hcarries.taken_step hflows hcarries' hflows' (stepAny_moves hs.1) side with
      hsame | ⟨f, hmore, hshort⟩
    · rw [hsame]
      exact and_iff_left_of_imp (fun hall => by rw [skipped_eq_zero hall, Nat.zero_mod])
    · rw [hmore, List.map_append, List.map_singleton]
      exact (harmless_snoc_iff hshort).symm

/-- When frames of any protocol are carried by a reliable stream, the decrypt position of a side
agrees with the encrypt position of the other side after each frame if and only if each frame that
has been handled has protocol 1 or no payload. -/
theorem positions_agree_iff (hkey : a.chacha20Key = b.chacha20Key)
    (h : Run (Guarded (StepOf (Link.stepAny (bytePrimitives q k mbedtlsChacha20))) Link.Reliable)
      (Link.start (bytePrimitives q k mbedtlsChacha20) a b) es l) (side : Side) :
    Throughout (Guarded (StepOf (Link.stepAny (bytePrimitives q k mbedtlsChacha20))) Link.Reliable)
        (Link.start (bytePrimitives q k mbedtlsChacha20) a b) es (fun l => l.InStep side) ↔
      ∀ call ∈ (callsOf (bytePrimitives q k mbedtlsChacha20) side.other es).take
        (l.conn side).handled.length, call.protocol = 1 ∨ call.payload = [] := by
  have hheaders := headers q k hkey h side.other
  rw [throughout_inStep_iff q k hkey h side, taken, List.map_take, hheaders, ← List.map_take,
    List.forall_mem_map]
  refine forall₂_congr (fun call _ => ?_)
  rw [Harmless, WriteCall.header, List.length_eq_zero_iff]

end Runs

/-- The near side sends a frame of protocol 2 and the text `hi`; the far side reads both. -/
def sampleMix (payload : List UInt8) (first second : List UInt8) : List (LinkEvent (List UInt8)) :=
  [.writeMsg ⟨.near, [0, 0, 2, 0] ++ payload, UInt16.ofNat payload.length⟩,
    .socket .near (.writeSome 0 first.length), .socket .near (.writeDone 0),
    .sendTextMsg .near [104, 105], .socket .near (.writeSome 0 second.length),
    .socket .far (.readSome 0 (first.take 2)), .socket .far (.readDone 0),
    .socket .far (.readSome 0 (first.drop 2)), .socket .far (.readDone 0),
    .socket .far (.readSome 0 (second.take 2)), .socket .far (.readDone 0),
    .socket .far (.readSome 0 (second.drop 2)), .socket .far (.readDone 0)]

/-- A frame of protocol 2 without payload does no harm. -/
theorem positions_agree_empty_frame :
    ∃ l : Link (List UInt8) ChachaContext,
      Run (Guarded (StepOf (Link.stepAny samplePrimitives)) Link.Reliable)
        (Link.start samplePrimitives sampleClientDone.beforeInit sampleServerDone.beforeInit)
        (sampleMix [] [0, 0, 2, 0] [2, 0, 1, 0, 1, 89]) l ∧
      Throughout (Guarded (StepOf (Link.stepAny samplePrimitives)) Link.Reliable)
        (Link.start samplePrimitives sampleClientDone.beforeInit sampleServerDone.beforeInit)
        (sampleMix [] [0, 0, 2, 0] [2, 0, 1, 0, 1, 89]) (fun l => l.InStep .far) ∧
      (l.conn .far).texts = [[104, 105]] := by
  obtain ⟨l, hrun, htest⟩ := exists_guarded_run_of_exec (Link.stepAny samplePrimitives)
    Link.Reliable (sampleMix [] [0, 0, 2, 0] [2, 0, 1, 0, 1, 89])
    (fun l => decide ((l.conn .far).texts = [[104, 105]]))
    (s := Link.start samplePrimitives sampleClientDone.beforeInit sampleServerDone.beforeInit)
    (by decide +kernel)
  refine ⟨l, hrun, ?_, of_decide_eq_true htest⟩
  refine (positions_agree_iff sampleQt sampleCurve sample_keys_agree hrun .far).mpr ?_
  intro call hmem
  have hcalls : ∀ call ∈ callsOf samplePrimitives .near (sampleMix [] [0, 0, 2, 0]
      [2, 0, 1, 0, 1, 89]), call.protocol = 1 ∨ call.payload = [] := by
    decide +kernel
  exact hcalls call (List.mem_of_mem_take hmem)

/-- A frame of protocol 2 with one byte garbles the text behind it. -/
theorem unknown_protocol_garbles :
    ∃ l : Link (List UInt8) ChachaContext,
      Run (Guarded (StepOf (Link.stepAny samplePrimitives)) Link.Reliable)
        (Link.start samplePrimitives sampleClientDone.beforeInit sampleServerDone.beforeInit)
        (sampleMix [33] [1, 0, 2, 0, 72] [2, 0, 1, 0, 88, 54]) l ∧
      (l.conn .far).handled.length = 2 ∧ ¬l.InStep .far ∧
      l.texts .near = [[104, 105]] ∧ (l.conn .far).texts = [[49, 6]] := by
  let test (l : Link (List UInt8) ChachaContext) : Bool :=
    decide ((l.conn .far).handled.length = 2 ∧ l.texts .near = [[104, 105]] ∧
      (l.conn .far).texts = [[49, 6]] ∧
      ¬(l.positions .near)[2]?.map ChachaContext.next = some (l.conn .far).sess.chachaDctx.next)
  obtain ⟨l, hrun, htest⟩ := exists_guarded_run_of_exec (Link.stepAny samplePrimitives)
    Link.Reliable (sampleMix [33] [1, 0, 2, 0, 72] [2, 0, 1, 0, 88, 54]) test
    (s := Link.start samplePrimitives sampleClientDone.beforeInit sampleServerDone.beforeInit)
    (by decide +kernel)
  obtain ⟨hhandled, htexts, hread, hdrift⟩ := of_decide_eq_true htest
  refine ⟨l, hrun, hhandled, ?_, htexts, hread⟩
  rintro ⟨ctx, hctx, hnext⟩
  rw [hhandled] at hctx
  have hposition : (l.positions .near)[2]? = some ctx := hctx
  rw [hposition, hnext] at hdrift
  exact hdrift rfl

end Link

end Enchat
