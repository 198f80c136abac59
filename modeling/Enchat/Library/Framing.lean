import Mathlib.Data.List.Basic
import Mathlib.Tactic.Common

/-!
# Self-delimiting frames

A framing tells the length of a frame from its first elements. A stream can then be cut into frames
in one way only.
-/

/-- The first `header` elements of a frame determine its length. -/
structure Framing (α : Type*) where
  header : ℕ
  total : List α → ℕ
  header_pos : 0 < header
  header_le : ∀ f, header ≤ total f
  total_congr : ∀ f g, f.take header = g.take header → total f = total g

namespace Framing

variable {α : Type*} (F : Framing α)

def IsFrame (f : List α) : Prop := f.length = F.total f

variable {F}

lemma IsFrame.eq_of_stream {f g l : List α} (hf : F.IsFrame f) (hg : F.IsFrame g) (hfl : f <+: l)
    (hgl : g <+: l) : f = g := by
  have hhead : f.take F.header = g.take F.header := by
    have hlen : ∀ {x : List α}, F.IsFrame x → F.header ≤ x.length :=
      fun {x} hx => hx ▸ F.header_le x
    obtain ⟨rf, rfl⟩ := hfl
    obtain ⟨rg, hrg⟩ := hgl
    have htake := congrArg (List.take F.header) hrg
    rw [List.take_append_of_le_length (hlen hg), List.take_append_of_le_length (hlen hf)] at htake
    exact htake.symm
  have hlen : f.length = g.length := by rw [hf, hg, F.total_congr f g hhead]
  exact List.IsPrefix.eq_of_length (List.prefix_of_prefix_length_le hfl hgl (Nat.le_of_eq hlen)) hlen

lemma IsFrame.ne_nil {f : List α} (hf : F.IsFrame f) : f ≠ [] := by
  rintro rfl
  have hle := F.header_le []
  have hpos := F.header_pos
  rw [← hf] at hle
  simp at hle
  omega

/-- The frames at the beginning of a stream of frames are the first ones of that stream. -/
theorem prefix_of_flatten {fs gs : List (List α)} {rest : List α} (hf : ∀ f ∈ fs, F.IsFrame f)
    (hg : ∀ g ∈ gs, F.IsFrame g) (h : fs.flatten ++ rest <+: gs.flatten) :
    ∃ gs', gs = fs ++ gs' ∧ rest <+: gs'.flatten := by
  induction fs generalizing gs with
  | nil => exact ⟨gs, rfl, h⟩
  | cons f fs ih =>
    cases gs with
    | nil =>
      have hnil := List.prefix_nil.mp h
      simp [(hf f (by simp)).ne_nil] at hnil
    | cons g gs =>
      simp only [List.flatten_cons, List.append_assoc] at h
      obtain rfl : f = g :=
        (hf f (by simp)).eq_of_stream (hg g (by simp)) ((List.prefix_append _ _).trans h)
          (List.prefix_append _ _)
      obtain ⟨gs', rfl, hrest⟩ := ih (fun f hmem => hf f (by simp [hmem]))
        (fun g hmem => hg g (by simp [hmem])) ((List.prefix_append_right_inj f).mp h)
      exact ⟨gs', rfl, hrest⟩

/-- An incomplete frame at the end of a stream of frames is empty. -/
lemma eq_of_flatten {fs gs : List (List α)} {rest : List α} (hf : ∀ f ∈ fs, F.IsFrame f)
    (hg : ∀ g ∈ gs, F.IsFrame g) (h : fs.flatten ++ rest = gs.flatten)
    (hopen : ∀ g, F.IsFrame g → ¬g <+: rest) : fs = gs := by
  have hpre : fs.flatten ++ rest <+: gs.flatten := ⟨[], by rw [List.append_nil, h]⟩
  obtain ⟨gs', rfl, _⟩ := prefix_of_flatten hf hg hpre
  rw [List.flatten_append, List.append_cancel_left_eq] at h
  cases gs' with
  | nil => rw [List.append_nil]
  | cons g gs' =>
    rw [h, List.flatten_cons] at hopen
    exact absurd (List.prefix_append g gs'.flatten) (hopen g (hg g (by simp)))

/-! ### Cutting a stream into frames -/

variable (F)

/-- At most `fuel` frames from the beginning of a stream, and what is left of it. -/
def cut : ℕ → List α → List (List α) × List α
  | 0, l => ([], l)
  | fuel + 1, l =>
    if F.total l ≤ l.length then
      (l.take (F.total l) :: (cut fuel (l.drop (F.total l))).1, (cut fuel (l.drop (F.total l))).2)
    else ([], l)

/-- The frames of a stream, and the incomplete frame at its end. -/
def split (l : List α) : List (List α) × List α := F.cut l.length l

variable {F}

lemma isFrame_take {l : List α} (h : F.total l ≤ l.length) : F.IsFrame (l.take (F.total l)) := by
  have hhead : F.total (l.take (F.total l)) = F.total l := by
    refine F.total_congr _ _ ?_
    rw [List.take_take, Nat.min_eq_left (F.header_le l)]
  rw [IsFrame, hhead, List.length_take, Nat.min_eq_left h]

lemma IsFrame.total_append {f : List α} (hf : F.IsFrame f) (l : List α) :
    F.total (f ++ l) = f.length := by
  rw [hf]
  refine F.total_congr _ _ ?_
  exact List.take_append_of_le_length (hf ▸ F.header_le f)

lemma cut_eq {fs : List (List α)} {rest : List α} (hf : ∀ f ∈ fs, F.IsFrame f)
    (hopen : ∀ f, F.IsFrame f → ¬f <+: rest) {fuel : ℕ} (hfuel : fs.length ≤ fuel) :
    F.cut fuel (fs.flatten ++ rest) = (fs, rest) := by
  induction fs generalizing fuel with
  | nil =>
    cases fuel with
    | zero => rfl
    | succ fuel =>
      rw [cut, if_neg]
      · rfl
      · intro hle
        exact hopen _ (isFrame_take hle) (List.take_prefix _ _)
  | cons f fs ih =>
    cases fuel with
    | zero => simp at hfuel
    | succ fuel =>
      have hhead : F.IsFrame f := hf f (by simp)
      have htotal := hhead.total_append (fs.flatten ++ rest)
      have hrest := ih (fun f hmem => hf f (by simp [hmem])) (Nat.le_of_succ_le_succ hfuel)
      rw [List.flatten_cons, List.append_assoc, cut, htotal, if_pos (by simp), List.take_left,
        List.drop_left, hrest]

lemma length_le_flatten {fs : List (List α)} (hf : ∀ f ∈ fs, F.IsFrame f) :
    F.header * fs.length ≤ fs.flatten.length := by
  induction fs with
  | nil => simp
  | cons f fs ih =>
    have hrest := ih (fun f hmem => hf f (by simp [hmem]))
    have hle := F.header_le f
    rw [← hf f (by simp)] at hle
    rw [List.flatten_cons, List.length_append, List.length_cons, Nat.mul_succ]
    omega

/-- The stream consists of the frames and of a rest that does not begin with a frame. -/
structure IsSplit (F : Framing α) (l : List α) (fs : List (List α)) (rest : List α) : Prop where
  stream : l = fs.flatten ++ rest
  frames : ∀ f ∈ fs, F.IsFrame f
  rest : ∀ f, F.IsFrame f → ¬f <+: rest

lemma isSplit_cut {l : List α} {fuel : ℕ} (hfuel : l.length ≤ fuel) :
    F.IsSplit l (F.cut fuel l).1 (F.cut fuel l).2 := by
  have hstop : ∀ {l : List α}, l.length < F.total l → F.IsSplit l [] l := by
    intro l hlt
    refine ⟨rfl, by simp, ?_⟩
    rintro f hf ⟨rest, rfl⟩
    rw [hf.total_append, List.length_append] at hlt
    omega
  induction fuel generalizing l with
  | zero =>
    have hpos := F.header_pos
    have hle := F.header_le l
    exact hstop (by omega)
  | succ fuel ih =>
    rw [cut]
    split
    · rename_i hle
      have hpos := F.header_pos
      have hhead := F.header_le l
      obtain ⟨hstream, hframes, hrest⟩ := ih (l := l.drop (F.total l)) (by
        rw [List.length_drop]
        omega)
      refine ⟨?_, ?_, hrest⟩
      · rw [List.flatten_cons, List.append_assoc, ← hstream, List.take_append_drop]
      · intro f hmem
        rcases List.mem_cons.mp hmem with rfl | hmem
        · exact isFrame_take hle
        · exact hframes f hmem
    · rename_i hlt
      exact hstop (by omega)

/-- A stream can be cut into frames in exactly one way. -/
theorem isSplit_iff {l : List α} {fs : List (List α)} {rest : List α} :
    F.IsSplit l fs rest ↔ F.split l = (fs, rest) := by
  constructor
  · rintro ⟨rfl, hframes, hrest⟩
    refine cut_eq hframes hrest ?_
    have hle := length_le_flatten hframes
    have hpos := Nat.le_mul_of_pos_left fs.length F.header_pos
    rw [List.length_append]
    omega
  · intro hsplit
    have hspec := isSplit_cut (F := F) (Nat.le_refl l.length)
    rw [split] at hsplit
    rwa [hsplit] at hspec

end Framing
