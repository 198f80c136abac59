import Enchat.Proofs.SessionMap

/-!
# No chat traffic before the handshake

A client registers a session before its handshake, and the answer to a request may still be on its
way when the session is announced. The wire keeps frames behind the packets of the handshake as
long as texts are given to finished sessions only and no frame overtakes a packet.
-/

namespace Enchat
open Transition ListUpdate

variable {QString Ctx : Type}

namespace Conn

/-- Frames exist only after the end of the handshake, and they come behind its packets. -/
structure FramesBehind (c : Conn QString Ctx) : Prop where
  none : c.finishes = 0 → c.waiting = [] ∧ (∀ op ∈ c.writes, op.hello.isSome = true) ∧
    ∀ b ∈ c.wire, b.hello = true
  complete : (∃ op ∈ c.writes, op.hello = Option.none) ∨ (∃ b ∈ c.wire, b.hello = false) →
    ∀ op ∈ c.writes, op.hello.isSome = true → op.data = []
  sorted : ∃ h f : List UInt8, c.wire = h.map (⟨true, ·⟩) ++ f.map (⟨false, ·⟩)

variable {P : Primitives (List UInt8) QString Ctx}

lemma FramesBehind.of_no_frames {c : Conn QString Ctx}
    (hwaiting : c.finishes = 0 → c.waiting = [])
    (hwrites : ∀ op ∈ c.writes, op.hello.isSome = true) (hwire : ∀ b ∈ c.wire, b.hello = true) :
    FramesBehind c := by
  refine ⟨fun hzero => ⟨hwaiting hzero, hwrites, hwire⟩, ?_, ?_⟩
  · rintro (⟨op, hmem, hnone⟩ | ⟨b, hmem, hfalse⟩)
    · simpa [hnone] using hwrites op hmem
    · simpa [hfalse] using hwire b hmem
  · refine ⟨c.wire.map WireByte.byte, [], ?_⟩
    rw [List.map_map, List.map_nil, List.append_nil]
    refine (List.map_id c.wire).symm.trans (List.map_congr_left ?_)
    intro b hmem
    have hb := hwire b hmem
    obtain ⟨hello, byte⟩ := b
    simp only at hb
    rw [hb]
    rfl

/-- While a packet is being written there is no frame. -/
lemma FramesBehind.no_frames {c : Conn QString Ctx} (h : FramesBehind c) {op : WriteOp}
    (hmem : op ∈ c.writes) (hsome : op.hello.isSome = true) (hdata : op.data ≠ []) :
    (∀ op ∈ c.writes, op.hello.isSome = true) ∧ ∀ b ∈ c.wire, b.hello = true := by
  constructor
  · intro op' hmem'
    by_contra hnone
    exact hdata (h.complete (Or.inl ⟨op', hmem', by simpa using hnone⟩) op hmem hsome)
  · intro b hb
    by_contra hfalse
    exact hdata (h.complete (Or.inr ⟨b, hb, by simpa using hfalse⟩) op hmem hsome)

lemma FramesBehind.frame {c c' : Conn QString Ctx} (h : FramesBehind c)
    (hfin : c.finishes ≤ c'.finishes) (hwaiting : c'.waiting = c.waiting)
    (hwrites : ∀ op ∈ c'.writes, op ∈ c.writes) (hwire : c'.wire = c.wire) : FramesBehind c' := by
  refine ⟨?_, ?_, hwire ▸ h.sorted⟩
  · intro hzero
    obtain ⟨hw, hall, hbytes⟩ := h.none (by omega)
    exact ⟨hwaiting.trans hw, fun op hmem => hall op (hwrites op hmem), hwire ▸ hbytes⟩
  · intro hframe op hmem
    refine h.complete ?_ op (hwrites op hmem)
    rcases hframe with ⟨op', hmem', hnone⟩ | hbyte
    · exact Or.inl ⟨op', hwrites op' hmem', hnone⟩
    · exact Or.inr (hwire ▸ hbyte)

lemma finishes_eq_zero {c : Conn QString Ctx} (h : c.Ordered) (hpos : 0 < c.opening) :
    c.finishes = 0 := by
  have hopening := h.opening
  omega

theorem FramesBehind.step {contains : List UInt8 → Bool} {c c' : Conn QString Ctx}
    {ev : SocketEvent} {effs : List (Effect (List UInt8) QString)} (hord : c.Ordered)
    (h : FramesBehind c) (hs : Step P contains c ev c' effs)
    (hguard : ∀ j, ev = .startWrite j → ∀ op ∈ c.writes, op.hello.isSome = true → op.data = []) :
    FramesBehind c' := by
  have hle := hs.finishes_le
  cases hs with
  | connectDone hc _ =>
    have hpos : 0 < c.opening := by
      rw [opening, hc, if_neg (by decide)]
      omega
    obtain ⟨hw, hall, hbytes⟩ := h.none (finishes_eq_zero hord hpos)
    refine FramesBehind.of_no_frames (fun _ => hw) ?_ hbytes
    intro op hmem
    rcases List.mem_append.mp hmem with hmem | hmem
    · exact hall op hmem
    · rw [List.mem_singleton.mp hmem]
      rfl
  | @writeSome i n op hop _ hn hlen =>
    have hmem : op ∈ c.writes := List.mem_of_getElem? hop
    have hdata : op.data ≠ [] := List.ne_nil_of_length_pos (by omega)
    cases hsome : op.hello.isSome with
    | true =>
      obtain ⟨hall, hbytes⟩ := h.no_frames hmem hsome hdata
      refine FramesBehind.of_no_frames (fun hzero => (h.none hzero).1) ?_ ?_
      · intro op' hmem'
        rcases List.mem_or_eq_of_mem_set hmem' with hold | rfl
        · exact hall op' hold
        · exact hsome
      · intro b hb
        rcases List.mem_append.mp hb with hb | hb
        · exact hbytes b hb
        · obtain ⟨_, _, rfl⟩ := List.mem_map.mp hb
          rfl
    | false =>
      have hnone : op.hello = Option.none := by simpa using hsome
      obtain ⟨h₀, f₀, hwire⟩ := h.sorted
      refine ⟨?_, ?_, h₀, f₀ ++ op.data.take n, ?_⟩
      · intro hzero
        have hall := (h.none hzero).2.1 op hmem
        rw [hsome] at hall
        cases hall
      · intro _ op' hmem' hsome'
        rcases List.mem_or_eq_of_mem_set hmem' with hold | rfl
        · exact h.complete (Or.inl ⟨op, hmem, hnone⟩) op' hold hsome'
        · simp [hnone] at hsome'
      · simp [hwire]
  | finished hop _ hh _ _ _ =>
    have hpos : 0 < c.opening := by
      have := helloReads_pos hop hh
      simp only [opening]
      omega
    obtain ⟨hw, hall, hbytes⟩ := h.none (finishes_eq_zero hord hpos)
    refine FramesBehind.of_no_frames (fun _ => hw) ?_ hbytes
    intro op' hmem
    rcases List.mem_append.mp hmem with hmem | hmem
    · exact hall op' hmem
    · obtain ⟨hp, _, rfl⟩ := List.mem_map.mp hmem
      rfl
  | @startWrite j data hd =>
    refine ⟨?_, fun _ op hmem hsome => ?_, h.sorted⟩
    · intro hzero
      rw [(h.none hzero).1] at hd
      simp at hd
    · rcases List.mem_append.mp hmem with hmem | hmem
      · exact hguard j rfl op hmem hsome
      · rw [List.mem_singleton.mp hmem] at hsome
        cases hsome
  | requestDone _ => exact h.frame hle rfl (fun _ => List.mem_of_mem_eraseIdx) rfl
  | writeDone _ _ _ => exact h.frame hle rfl (fun _ => List.mem_of_mem_eraseIdx) rfl
  | writeFail _ _ => exact h.frame hle rfl (fun _ => List.mem_of_mem_eraseIdx) rfl
  | _ => exact h.frame hle rfl (fun _ h => h) rfl

end Conn

namespace Endpoint

variable [DecidableEq QString]

/-- The condition on an event that keeps frames behind the handshake: a text is given to a session
that has finished its handshake or to none, and a frame starts when no packet is being written. -/
def KeepsQuiet (e : Endpoint QString Ctx) : Event QString Ctx → Prop
  | .sendTextMsg id _ => ∀ s ∈ e.sessMap.lookup id, ∀ c ∈ e.sessions[s]?, 0 < c.finishes
  | .socket s (.startWrite _) =>
    ∀ c ∈ e.sessions[s]?, ∀ op ∈ c.writes, op.hello.isSome = true → op.data = []
  | _ => True

instance (e : Endpoint QString Ctx) : (ev : Event QString Ctx) → Decidable (KeepsQuiet e ev)
  | .sendTextMsg id _ =>
    inferInstanceAs (Decidable (∀ s ∈ e.sessMap.lookup id, ∀ c ∈ e.sessions[s]?, 0 < c.finishes))
  | .socket s (.startWrite _) =>
    inferInstanceAs (Decidable (∀ c ∈ e.sessions[s]?, ∀ op ∈ c.writes, _ = _ → _ = _))
  | .accept _ _ _ | .doConnect _ _ _ _ | .close | .updatePeerList _ | .setEcKey _ _ | .setName _ =>
    .isTrue trivial
  | .socket _ .connectOk | .socket _ .connectDone | .socket _ .connectFail
  | .socket _ (.writeSome _ _) | .socket _ (.writeDone _) | .socket _ (.writeFail _)
  | .socket _ (.readSome _ _) | .socket _ (.readDone _) | .socket _ (.readFail _) =>
    .isTrue trivial

variable {q : Qt (List UInt8) QString} {k : Curve} {a : CipherApi Ctx} {role : Role}
  {name : QString}
  {es : List (Event QString Ctx)} {e : Endpoint QString Ctx}

lemma framesBehind {P : Primitives (List UInt8) QString Ctx}
    (h : GuardedRuns P KeepsQuiet role name es e) {s : ℕ} {c : Conn QString Ctx}
    (hc : e.sessions[s]? = some c) : c.FramesBehind := by
  have hrule : SessionRule P KeepsQuiet role name (fun _ _ c => c.FramesBehind) :=
    { mono := fun _ _ _ _ h => h
      accept := fun _ _ _ _ _ _ _ => Conn.FramesBehind.of_no_frames (fun _ => rfl) (by
        intro op hmem
        cases hmem) (by
        intro b hmem
        cases hmem)
      connect := fun _ _ _ _ _ _ _ _ _ => Conn.FramesBehind.of_no_frames (fun _ => rfl) (by
        intro op hmem
        cases hmem) (by
        intro b hmem
        cases hmem)
      step := ?_
      closed := fun _ _ c h => h.frame (by
        simp [Conn.closed_eq, Conn.finishes, ClientCall.isFinished]) rfl (fun _ h => h) rfl
      encrypt := ?_ }
  · exact hrule.holds P h s c hc
  · intro es e s c ev c' effs hr hc hconn hguard _ h
    refine h.step (ordered P hr hc) hconn ?_
    rintro j rfl
    exact hguard c hc
  · intro es e s c id text _ hc hl hguard h
    have hfin : 0 < c.finishes := hguard s hl c hc
    refine ⟨?_, h.complete, h.sorted⟩
    intro hzero
    have hsame : (c.encryptText P text).finishes = c.finishes := rfl
    omega

/-- As long as every event meets the condition, no byte of a frame comes before a byte of a packet,
and a text either goes to a session that has set up its cipher with the key of the packet that it
accepted, or changes nothing. -/
theorem frames_after_handshake (h : GuardedRuns (bytePrimitives q k a) KeepsQuiet role name es e) :
    (∀ (s : ℕ) (c : Conn QString Ctx), e.sessions[s]? = some c →
      ∃ h f : List UInt8, c.wire = h.map (⟨true, ·⟩) ++ f.map (⟨false, ·⟩)) ∧
    ∀ id text, KeepsQuiet e (.sendTextMsg id text) →
      ((e.sendTextMsgEncrypt (bytePrimitives q k a) id text).2 = true →
        ∃ (s : ℕ) (c : Conn QString Ctx), e.sessions[s]? = some c ∧ c.sess.initRuns = 1 ∧
        Past (StepOf (step (bytePrimitives q k a))) (init role name) es
          (FinishedBy (bytePrimitives q k a) role s c.sess) ∧
        (e.sendTextMsgEncrypt (bytePrimitives q k a) id text).1 =
          { e with
            sessions := e.sessions.set s (c.encryptText (bytePrimitives q k a) text) }) ∧
      ((e.sendTextMsgEncrypt (bytePrimitives q k a) id text).2 = false →
        (e.sendTextMsgEncrypt (bytePrimitives q k a) id text).1 = e) := by
  refine ⟨fun s c hc => (framesBehind h hc).sorted, ?_⟩
  intro id text hready
  cases hl : e.sessMap.lookup id with
  | none => simp [sendTextMsgEncrypt, hl]
  | some s =>
    refine ⟨fun _ => ?_, fun hfalse => by simp [sendTextMsgEncrypt, hl] at hfalse⟩
    obtain ⟨c, hc, _, _⟩ := owned h id s hl
    have hfin : 0 < c.finishes := hready s hl c hc
    have hord := ordered _ h hc
    refine ⟨s, c, hc, ?_, (identified _ rfl h.of_guarded hc).finished hfin, ?_⟩
    · have hopening := hord.opening
      have hruns := hord.initRuns
      omega
    · simp only [sendTextMsgEncrypt, hl, modify_eq_set_of_some hc]

/-- A server announces its peer and sends a text once its answer is on the wire. -/
theorem frames_after_handshake_answered :
    ∃ (es : List (Event (List UInt8) ChachaContext)) (e : Endpoint (List UInt8) ChachaContext),
      GuardedRuns samplePrimitives KeepsQuiet .chatServer [] es e ∧
      ∃ (s : ℕ) (c : Conn (List UInt8) ChachaContext),
        e.sessions[s]? = some c ∧ c.sess.initRuns = 1 := by
  let test (e : Endpoint (List UInt8) ChachaContext) : Bool :=
    decide (KeepsQuiet e (.sendTextMsg (sampleKey 7) [104])) &&
      (e.sendTextMsgEncrypt samplePrimitives (sampleKey 7) [104]).2
  obtain ⟨e, hrun, hp⟩ := exists_guarded_run_of_exec (Endpoint.step samplePrimitives) KeepsQuiet
    [.updatePeerList [⟨[], sampleKey 7, [], 0⟩],
      .accept (sampleKey 3) sampleContext sampleContext,
      .socket 0 (.readSome 0 (sampleHello 1 7 5).pack), .socket 0 (.readDone 0),
      .socket 0 (.writeSome 0 165), .sendTextMsg (sampleKey 7) [104], .socket 0 (.startWrite 0),
      .socket 0 (.writeSome 1 5)]
    test (s := Endpoint.init .chatServer []) (by decide +kernel)
  simp only [test, Bool.and_eq_true, decide_eq_true_eq] at hp
  obtain ⟨s, c, hc, hruns, _⟩ :=
    ((frames_after_handshake hrun).2 (sampleKey 7) [104] hp.1).1 hp.2
  exact ⟨_, e, hrun, s, c, hc, hruns⟩

/-- A client sends a text to a session that has only been created. The frame goes out in front of
the packet, encrypted although `initChaCha20` has never run. -/
theorem text_before_handshake :
    ∃ (es : List (Event (List UInt8) ChachaContext)) (e : Endpoint (List UInt8) ChachaContext)
      (c : Conn (List UInt8) ChachaContext),
      Runs samplePrimitives .chatClient [] es e ∧
      (e.sendTextMsgEncrypt samplePrimitives (sampleKey 7) [104]).2 = true ∧
      e.sessMap.lookup (sampleKey 7) = some 0 ∧ e.sessions[0]? = some c ∧ c.sess.initRuns = 0 ∧
      c.wire.map WireByte.hello = [false, false, false, false, false, true] := by
  let test (e : Endpoint (List UInt8) ChachaContext) : Bool :=
    (e.sendTextMsgEncrypt samplePrimitives (sampleKey 7) [104]).2 &&
    decide (e.sessMap.lookup (sampleKey 7) = some 0) &&
    (e.sessions[0]?).any fun c => decide (c.sess.initRuns = 0) &&
      decide (c.wire.map WireByte.hello = [false, false, false, false, false, true])
  obtain ⟨e, hrun, hp⟩ := exists_run_of_exec (Endpoint.step samplePrimitives)
    [.doConnect (sampleKey 7) (sampleKey 3) sampleContext sampleContext, .socket 0 .connectOk,
      .sendTextMsg (sampleKey 7) [104], .socket 0 (.startWrite 0), .socket 0 (.writeSome 0 5),
      .socket 0 .connectDone, .socket 0 (.writeSome 1 1)]
    test (s := Endpoint.init .chatClient []) (by decide +kernel)
  simp only [test, Bool.and_eq_true, decide_eq_true_eq] at hp
  obtain ⟨⟨hsend, hl⟩, hp⟩ := hp
  obtain ⟨c, hc, hp⟩ := (Option.any_eq_true _ _).mp hp
  simp only [Bool.and_eq_true, decide_eq_true_eq] at hp
  exact ⟨_, e, c, hrun, hsend, hl, hc, hp.1, hp.2⟩

end Endpoint

end Enchat
