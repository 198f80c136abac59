import Enchat.Proofs.SessionMap

/-!
# Closed sessions

A session that has been closed is in no entry of the map any more. `ChatClient::close` therefore
closes each session at most once; the only other close is that of `onHandShake` on a refused packet.
-/

namespace Enchat
open Transition ListUpdate

variable {QString Ctx : Type} {P : Primitives (List UInt8) QString Ctx}

def ClientCall.isClose : ClientCall QString → Bool
  | .onClose _ => true
  | _ => false

namespace Conn

/-- How often the session has been closed. -/
def closes (c : Conn QString Ctx) : ℕ := c.calls.countP ClientCall.isClose

lemma closes_pos_iff (c : Conn QString Ctx) :
    0 < c.closes ↔ ∃ id, ClientCall.onClose id ∈ c.calls := by
  rw [closes, List.countP_pos_iff]
  constructor
  · rintro ⟨call, hmem, hclose⟩
    cases call with
    | onClose id => exact ⟨id, hmem⟩
    | _ => simp [ClientCall.isClose] at hclose
  · rintro ⟨id, hmem⟩
    exact ⟨_, hmem, rfl⟩

lemma closes_closed (c : Conn QString Ctx) : c.closed.closes = c.closes + 1 := by
  simp [closed_eq, closes, ClientCall.isClose]

/-- A step closes the session only when it refuses a packet. -/
theorem Step.closes_cases {contains : List UInt8 → Bool} {c c' : Conn QString Ctx}
    {ev : SocketEvent} {effs : List (Effect (List UInt8) QString)}
    (hs : Step P contains c ev c' effs) :
    (c'.closes = c.closes ∧ c'.isOpen = c.isOpen ∧
      ∀ id, ClientCall.onClose id ∈ c'.calls → ClientCall.onClose id ∈ c.calls) ∨
    ∃ (i : ℕ) (op : ReadOp), ev = .readDone i ∧ c.reads[i]? = some op ∧ c.Refuses P contains op ∧
      c'.isOpen = false ∧ c'.sess.id = (c.sess.refused P contains op.hello).id ∧
      c'.calls = c.calls ++ [.onClose c'.sess.id] := by
  cases hs with
  | @unlisted i op hop hf hh ha =>
    refine Or.inr ⟨i, op, rfl, hop, ⟨hh, hf, fun h => ha h.1⟩, rfl, ?_, rfl⟩
    rw [ChatSession.refused_of_not_admits P ha]
  | @badSignature i op hop hf hh ha hv =>
    refine Or.inr ⟨i, op, rfl, hop, ⟨hh, hf, fun h => hv h.2⟩, rfl, ?_, rfl⟩
    rw [ChatSession.refused_of_admits P ha]
  | connectDone _ _ => exact Or.inl (by simp [closes, ClientCall.isClose])
  | finished _ _ _ _ _ _ => exact Or.inl (by simp [closes, ClientCall.isClose])
  | bodyDone _ _ _ _ => exact Or.inl (by simp [closes, ClientCall.isClose])
  | _ => exact Or.inl ⟨rfl, rfl, fun _ h => h⟩

/-- An entry after a step of session `s` was there before, unless `s` has just been inserted. -/
lemma MapStep.lookup_cases [DecidableEq QString] {contains : List UInt8 → Bool}
    {c c' : Conn QString Ctx} {ev : SocketEvent} {role : Role} {s : ℕ} {m m' : SessMap QString}
    (h : MapStep P contains c c' ev role s m m') {id : QString} {t : ℕ}
    (hl : m'.lookup id = some t) :
    (∃ id', m.lookup id' = some t) ∨
      (t = s ∧ role = .chatServer ∧ ∃ (i : ℕ) (op : ReadOp), ev = .readDone i ∧
        c.reads[i]? = some op ∧ c.Accepts P contains op) := by
  cases h with
  | same hm _ _ _ => exact Or.inl ⟨id, hm ▸ hl⟩
  | erased _ _ _ hm _ _ _ =>
    rw [hm, SessMap.lookup_erase_eq] at hl
    split at hl
    · cases hl
    · exact Or.inl ⟨id, hl⟩
  | @inserted i op hev hop haccept _ hm _ _ _ =>
    rw [hm] at hl
    split at hl
    · rename_i hserver
      rw [SessMap.lookup_stdInsert] at hl
      split at hl
      · cases hold : m.lookup (c.sess.adoptPeer P op.hello).id with
        | none =>
          rw [hold] at hl
          exact Or.inr ⟨(Option.some.inj hl).symm, hserver, i, op, hev, hop, haccept⟩
        | some t' =>
          rw [hold] at hl
          exact Or.inl ⟨_, hold.trans hl⟩
      · exact Or.inl ⟨id, hl⟩
    · exact Or.inl ⟨id, hl⟩

/-- What holds of a session whether or not it has been closed. -/
structure Closing (role : Role) (c : Conn QString Ctx) : Prop where
  isOpen : c.isOpen = true ↔ c.closes = 0
  ids : ∀ id, ClientCall.onClose id ∈ c.calls → c.sess.id = id
  server : role = .chatServer → c.closes + c.opening + c.finishes ≤ 1

lemma Closing.new {role : Role} {c : Conn QString Ctx} (hcalls : c.calls = [])
    (hopen : c.isOpen = true) (hopening : c.opening ≤ 1) : c.Closing role := by
  refine ⟨?_, ?_, ?_⟩
  · simp [hopen, closes, hcalls]
  · simp [hcalls]
  · intro _
    simpa [closes, finishes, hcalls] using hopening

lemma Closing.closed {c : Conn QString Ctx} (h : c.Closing .chatClient) :
    c.closed.Closing .chatClient := by
  refine ⟨?_, ?_, nofun⟩
  · rw [closes_closed]
    simp [closed_eq]
  · intro id hmem
    rcases List.mem_append.mp hmem with hold | hnew
    · exact h.ids id hold
    · obtain rfl : id = c.sess.id := by simpa using hnew
      rfl

/-- Once it has been closed, a session keeps its id. -/
lemma Closing.id_of_step {role : Role} {contains : List UInt8 → Bool} {c c' : Conn QString Ctx}
    {ev : SocketEvent} {effs : List (Effect (List UInt8) QString)} (h : c.Closing role)
    (hclient : role = .chatClient → contains = ChatClient.containsPeerPubkey)
    (hs : Step P contains c ev c' effs) (hpos : 0 < c.closes) : c'.sess.id = c.sess.id := by
  rcases hs.identity with ⟨_, hid⟩ | ⟨i, op, _, hop, hh, ha, _, hid⟩
  · exact hid
  · cases role with
    | chatClient =>
      rw [hclient rfl] at ha
      rw [hid, ChatSession.adoptPeer_of_admits P ha]
    | chatServer =>
      have hserver := h.server rfl
      have hreads := helloReads_pos hop hh
      simp only [Conn.opening] at hserver
      omega

lemma Closing.step {role : Role} {contains : List UInt8 → Bool} {c c' : Conn QString Ctx}
    {ev : SocketEvent} {effs : List (Effect (List UInt8) QString)} (h : c.Closing role)
    (hclient : role = .chatClient → contains = ChatClient.containsPeerPubkey)
    (hs : Step P contains c ev c' effs) : c'.Closing role := by
  have hle := hs.opening_le
  rcases hs.closes_cases with ⟨hcloses, hopen, hcalls⟩ | ⟨i, op, rfl, hop, hrefuse, hopen, _, hcalls⟩
  · refine ⟨?_, ?_, ?_⟩
    · rw [hopen, hcloses]
      exact h.isOpen
    · intro id hmem
      have hold := hcalls id hmem
      rw [h.id_of_step hclient hs (c.closes_pos_iff.mpr ⟨id, hold⟩)]
      exact h.ids id hold
    · intro hr
      have hserver := h.server hr
      rcases hs.finishes_cases with ⟨hfin, _⟩ | ⟨i, op, rfl, hop, _, hh, _, _, _, _, _, _, hfin⟩
      · omega
      · have hdone := hs.opening_hello P hop hh
        omega
  · have hcloses : c'.closes = c.closes + 1 := by
      simp [closes, hcalls, ClientCall.isClose]
    have hfin : c'.finishes = c.finishes := by
      simp [finishes, hcalls, ClientCall.isFinished]
    refine ⟨?_, ?_, ?_⟩
    · simp [hopen, hcloses]
    · intro id hmem
      rw [hcalls] at hmem
      rcases List.mem_append.mp hmem with hold | hnew
      · rw [h.id_of_step hclient hs (c.closes_pos_iff.mpr ⟨id, hold⟩)]
        exact h.ids id hold
      · obtain rfl : id = c'.sess.id := by simpa using hnew
        rfl
    · intro hr
      have hserver := h.server hr
      have hdone := hs.opening_hello P hop hrefuse.1
      omega

end Conn

namespace Endpoint

variable [DecidableEq QString] {C : Endpoint QString Ctx → Event QString Ctx → Prop} {role : Role}
  {name : QString} {es : List (Event QString Ctx)} {e : Endpoint QString Ctx}

lemma contains_of_client {e : Endpoint QString Ctx} (h : e.role = .chatClient) :
    e.containsPeerPubkey P = ChatClient.containsPeerPubkey := by
  simp [Endpoint.containsPeerPubkey, h]

/-- `ChatClient::close` closes the sessions of distinct entries one after the other. -/
lemma foldl_closeSession {entries : List (Σ _ : QString, ℕ)} (hown : e.Owned)
    (hnodup : entries.NodupKeys) (hl : ∀ entry ∈ entries, e.sessMap.lookup entry.1 = some entry.2) :
    entries.foldl (fun e entry => e.closeSession entry.2) e =
      { e with
        sessions := e.sessions.mapIdx fun s c =>
          if s ∈ entries.map Sigma.snd then c.closed else c
        sessMap := entries.foldl (fun m entry => m.erase entry.1) e.sessMap
        signals := e.signals ++ entries.map fun entry => (entry.2, .sigClose entry.1) } := by
  induction entries generalizing e with
  | nil =>
    have hsame : e.sessions.mapIdx (fun _ c => c) = e.sessions := by
      rw [List.mapIdx_eq_iff]
      intro i
      simp
    simp [hsame]
  | cons entry entries ih =>
    obtain ⟨c, hc, hid, _⟩ := hown entry.1 entry.2 (hl entry (by simp))
    obtain ⟨hnew, hnodup'⟩ := List.nodupKeys_cons.mp hnodup
    have hkey : ∀ entry' ∈ entries, entry'.1 ≠ entry.1 := by
      intro entry' hmem heq
      exact hnew (heq ▸ List.mem_keys_of_mem hmem)
    have hl' : ∀ entry' ∈ entries, e.sessMap.lookup entry'.1 = some entry'.2 :=
      fun entry' hmem => hl entry' (by simp [hmem])
    have hother : entry.2 ∉ entries.map Sigma.snd := by
      intro hmem
      obtain ⟨entry', hmem', heq⟩ := List.mem_map.mp hmem
      obtain ⟨c', hc', hid', _⟩ := hown entry'.1 entry'.2 (hl' entry' hmem')
      rw [heq] at hc'
      obtain rfl := Option.some.inj (hc.symm.trans hc')
      exact hkey entry' hmem' (hid'.symm.trans hid)
    have hown' := hown.closeSession entry.2
    rw [closeSession_eq hc] at hown'
    rw [List.foldl_cons, closeSession_eq hc, ih hown' hnodup' ?_]
    · have hsessions : (e.sessions.set entry.2 c.closed).mapIdx
          (fun s c => if s ∈ entries.map Sigma.snd then c.closed else c) =
          e.sessions.mapIdx
            fun s c => if s ∈ (entry :: entries).map Sigma.snd then c.closed else c := by
        refine List.ext_getElem? (fun i => ?_)
        simp only [List.getElem?_mapIdx, List.getElem?_set]
        by_cases hi : entry.2 = i
        · subst hi
          have hlt := (List.getElem?_eq_some_iff.mp hc).1
          have hin : entry.2 ∈ (entry :: entries).map Sigma.snd := List.mem_cons_self
          simp only [hlt, hc, hother, hin, if_true, if_false, Option.map_some]
        · have hin : i ∈ (entry :: entries).map Sigma.snd ↔ i ∈ entries.map Sigma.snd := by
            rw [List.map_cons, List.mem_cons, or_iff_right (Ne.symm hi)]
          simp only [hi, hin, if_false]
      simp only [hsessions, hid, List.foldl_cons, List.map_cons, List.append_assoc,
        List.singleton_append]
    · intro entry' hmem
      simp only [hid, SessMap.lookup_erase_eq, hkey entry' hmem, if_false]
      exact hl' entry' hmem

theorem closeAll_eq (hown : e.Owned) :
    e.closeAll =
      { e with
        sessions := e.sessions.mapIdx fun s c =>
          if s ∈ e.sessMap.entries.map Sigma.snd then c.closed else c
        sessMap := ∅
        signals := e.signals ++ e.sessMap.entries.map fun entry => (entry.2, .sigClose entry.1) } := by
  rw [closeAll, foldl_closeSession hown e.sessMap.nodupKeys]
  intro entry hmem
  exact AList.mem_lookup_iff.mpr hmem

/-- A session that was in the map has been closed once, and the others are as before. -/
lemma closeAll_session (hown : e.Owned) {s : ℕ} {c' : Conn QString Ctx}
    (hc' : e.closeAll.sessions[s]? = some c') :
    (∃ c id, e.sessions[s]? = some c ∧ e.sessMap.lookup id = some s ∧ c' = c.closed) ∨
      e.sessions[s]? = some c' := by
  rw [closeAll_eq hown, List.getElem?_mapIdx] at hc'
  obtain ⟨c, hc, rfl⟩ := Option.map_eq_some_iff.mp hc'
  by_cases hmem : s ∈ e.sessMap.entries.map Sigma.snd
  · obtain ⟨⟨id, t⟩, hentry, rfl⟩ := List.mem_map.mp hmem
    exact Or.inl ⟨c, id, hc, AList.mem_lookup_iff.mpr hentry, if_pos hmem⟩
  · rw [if_neg hmem]
    exact Or.inr hc

/-- Closed sessions are in no entry of the map. -/
def Closing (e : Endpoint QString Ctx) : Prop :=
  ∀ s c, e.sessions[s]? = some c → c.Closing e.role ∧
    (0 < c.closes → ∀ id, e.sessMap.lookup id ≠ some s)

lemma Closing.update (h : GuardedRuns P C role name es e) (hclosing : e.Closing) {s : ℕ}
    {c c' : Conn QString Ctx} {ev : SocketEvent} {effs : List (Effect (List UInt8) QString)}
    (hc : e.sessions[s]? = some c) (hconn : Conn.Step P (e.containsPeerPubkey P) c ev c' effs) :
    (e.update s c' effs).Closing := by
  obtain ⟨hcl, hunlisted⟩ := hclosing s c hc
  rw [update_eq]
  intro t c₁ hc₁
  have hmap := hconn.map P e.role s e.sessMap
  rcases getElem?_set_cases hc₁ with ⟨rfl, rfl⟩ | ⟨hne, hold⟩
  · refine ⟨hcl.step contains_of_client hconn, fun hpos id hl => ?_⟩
    rcases hconn.closes_cases with ⟨hcloses, _, _⟩ | ⟨i, op, rfl, hop, hrefuse, _⟩
    · rcases hmap.lookup_cases hl with ⟨id', hl'⟩ | ⟨_, hserver, i, op, _, hop, haccept⟩
      · exact hunlisted (by omega) id' hl'
      · have hone := hcl.server hserver
        have hreads := Conn.helloReads_pos hop haccept.1
        simp only [Conn.opening] at hone
        omega
    · rw [hconn.effects_of_refuses P hop hrefuse] at hl
      have hl' := (SessMap.lookup_erase_eq _ _ _).symm.trans hl
      split at hl'
      · cases hl'
      · rename_i hne
        exact hne (id_of_refuses h hc hop hrefuse id hl')
  · obtain ⟨hcl₁, hunlisted₁⟩ := hclosing t c₁ hold
    refine ⟨hcl₁, fun hpos id hl => ?_⟩
    rcases hmap.lookup_cases hl with ⟨id', hl'⟩ | ⟨heq, _⟩
    · exact hunlisted₁ hpos id' hl'
    · exact hne heq

theorem closing (h : GuardedRuns P C role name es e) : e.Closing := by
  refine h.invariant_history (I := fun _ e => e.Closing) ?_ ?_
  · intro s c hc
    simp [init] at hc
  · intro es e ev e' hr ih hs
    cases step_step P hs.1 with
    | accept _ =>
      intro s c hc
      rcases getElem?_snoc_cases hc with ⟨rfl, rfl⟩ | hold
      · exact ⟨Conn.Closing.new rfl rfl (by rfl), fun hpos => absurd hpos (Nat.lt_irrefl 0)⟩
      · exact ih s c hold
    | @doConnect id _ _ _ _ =>
      intro s c hc
      rcases getElem?_snoc_cases hc with ⟨rfl, rfl⟩ | hold
      · exact ⟨Conn.Closing.new rfl rfl (by rfl), fun hpos => absurd hpos (Nat.lt_irrefl 0)⟩
      · refine ⟨(ih s c hold).1, fun hpos id' hl => ?_⟩
        rw [SessMap.lookup_stdInsert] at hl
        split at hl
        · cases hlook : e.sessMap.lookup id with
          | none =>
            rw [hlook] at hl
            have hlt := (List.getElem?_eq_some_iff.mp hold).1
            have heq : e.sessions.length = s := by simpa using hl
            omega
          | some t =>
            rw [hlook] at hl
            exact (ih s c hold).2 hpos id (hlook.trans hl)
        · exact (ih s c hold).2 hpos id' hl
    | socket hc hconn => exact ih.update hr hc hconn
    | sendTextMsg _ =>
      intro s c hc
      rcases getElem?_modify_cases hc with ⟨rfl, c₀, hc₀, rfl⟩ | ⟨_, hold⟩
      · obtain ⟨hcl, hunlisted⟩ := ih _ c₀ hc₀
        exact ⟨⟨hcl.isOpen, hcl.ids, hcl.server⟩, hunlisted⟩
      · exact ih s c hold
    | close hrole =>
      have hsessions : ∀ (s : ℕ) c, e.closeAll.sessions[s]? = some c → c.Closing .chatClient := by
        refine closeAll_induct
          (M := fun e => ∀ (s : ℕ) c, e.sessions[s]? = some c → c.Closing .chatClient) ?_
          (fun _ h => h) (fun s c hc => hrole ▸ (ih s c hc).1)
        intro e s hM
        refine closeSession_cases
          (M := fun e => ∀ (s : ℕ) c, e.sessions[s]? = some c → c.Closing .chatClient) hM ?_
        intro c hc t c' hc'
        rcases getElem?_set_cases hc' with ⟨rfl, rfl⟩ | ⟨_, hold⟩
        · exact (hM _ _ hc).closed
        · exact hM _ _ hold
      have hrole' : e.closeAll.role = .chatClient :=
        closeAll_induct (M := fun e => e.role = .chatClient)
          (fun e s h => closeSession_cases (M := fun e => e.role = .chatClient) h (fun _ _ => h))
          (fun _ h => h) hrole
      intro s c hc
      refine ⟨hrole' ▸ hsessions s c hc, fun _ id hl => ?_⟩
      have hnone : e.closeAll.sessMap.lookup id = none := rfl
      rw [hnone] at hl
      cases hl
    | _ => exact ih

end Endpoint

end Enchat
