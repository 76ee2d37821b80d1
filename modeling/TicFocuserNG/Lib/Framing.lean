import Mathlib.Data.List.Forall2

/- Frames on a line of symbols.

   A frame starts with a head and goes on with data. The receiver starts anew at
   every head, and puts out what a frame stands for when it has all of it.

     1. `IsFrame.receive`: from any state of the receiver, a frame that arrives whole is
        put out.
     2. `Yields.flatMap`: what pieces of the line put out from any state, they put out
        one after the other.
     3. `foldl_receive_lossy`: where data of some frames are lost on the way, and no
        head is, these frames are dropped and the others are put out. -/
namespace Framing

variable {α β : Type}

structure Format (α β : Type) where
  head : α → Bool
  decode : List α → Option β

/-- The frame being received, and what was put out. -/
structure Receiver (α β : Type) where
  frame : List α := []
  out : List β := []
  deriving DecidableEq, Repr

variable (F : Format α β)

def receive (s : Receiver α β) (a : α) : Receiver α β :=
  let frame := if F.head a then [a] else s.frame ++ [a]
  match F.decode frame with
  | none => { s with frame }
  | some b => { frame := [], out := s.out ++ [b] }

/-- What was put out stays. -/
theorem out_foldl (as : List α) (s : Receiver α β) : ∃ new, (as.foldl (receive F) s).out = s.out ++ new := by
  induction as generalizing s with
  | nil => exact ⟨[], (List.append_nil _).symm⟩
  | cons a as ih =>
    have hone : ∃ new, (receive F s a).out = s.out ++ new := by
      rw [receive]
      split
      · exact ⟨[], (List.append_nil _).symm⟩
      · exact ⟨_, rfl⟩
    obtain ⟨new, hnew⟩ := hone
    obtain ⟨rest, hrest⟩ := ih (receive F s a)
    exact ⟨new ++ rest, by rw [List.foldl_cons, hrest, hnew, List.append_assoc]⟩

/-- A frame for `b`: a head and data, which stand for nothing before their end. -/
structure IsFrame (f : List α) (b : β) : Prop where
  shape : ∃ h data, f = h :: data ∧ F.head h = true ∧ ∀ a ∈ data, F.head a = false
  part : ∀ n, 0 < n → n < f.length → F.decode (f.take n) = none
  decode : F.decode f = some b

/-- A frame that stands for nothing while data are missing, wherever. -/
structure Robust (f : List α) (b : β) : Prop extends IsFrame F f b where
  holes : ∀ h data, f = h :: data → ∀ data' : List α, data'.Sublist data → data' ≠ data → F.decode (h :: data') = none

/-- What is left of a frame that lost data. -/
def Remains (f g : List α) : Prop := ∃ h data data', f = h :: data ∧ g = h :: data' ∧ data'.Sublist data

variable {F}

/-- Where the number of symbols decides, it is enough that a shorter one stands for
    nothing. -/
theorem Robust.of_length {h : α} {data : List α} {b : β} (hh : F.head h = true) (hdata : ∀ a ∈ data, F.head a = false)
    (hshort : ∀ data' : List α, data'.length < data.length → F.decode (h :: data') = none)
    (hdec : F.decode (h :: data) = some b) : Robust F (h :: data) b where
  shape := ⟨h, data, rfl, hh, hdata⟩
  part := by
    intro n h0 hn
    obtain ⟨m, rfl⟩ : ∃ m, n = m + 1 := ⟨n - 1, by omega⟩
    rw [List.length_cons] at hn
    rw [List.take_succ_cons]
    apply hshort
    rw [List.length_take]
    omega
  decode := hdec
  holes := by
    intro h' data' heq data'' hsub hne
    rw [List.cons.injEq] at heq
    obtain ⟨rfl, rfl⟩ := heq
    apply hshort
    exact Nat.lt_of_le_of_ne hsub.length_le (fun hlen => hne (hsub.eq_of_length hlen))

/-- Data after `seen`, short of what is decoded. -/
theorem receive_pending {seen data : List α} {s : Receiver α β} (hs : s.frame = seen)
    (hdata : ∀ a ∈ data, F.head a = false)
    (hpart : ∀ n, 0 < n → n ≤ data.length → F.decode (seen ++ data.take n) = none) :
    data.foldl (receive F) s = { frame := seen ++ data, out := s.out } := by
  induction data generalizing seen s with
  | nil => simp [← hs]
  | cons a data ih =>
    have ha : F.head a = false := hdata a List.mem_cons_self
    have hnone : F.decode (seen ++ [a]) = none := hpart 1 Nat.one_pos (by simp)
    have hstep : receive F s a = { frame := seen ++ [a], out := s.out } := by
      simp only [receive, ha, Bool.false_eq_true, if_false, hs, hnone]
    rw [List.foldl_cons, hstep, ih rfl (fun b hb => hdata b (List.mem_cons_of_mem a hb))]
    · simp
    · intro n h0 hn
      have h := hpart (n + 1) (Nat.succ_pos n) (by simpa using hn)
      rwa [List.take_succ_cons, List.append_cons] at h

/-- A head, and data that are not all of a frame. -/
theorem receive_unfinished {h : α} {data : List α} (s : Receiver α β) (hh : F.head h = true)
    (hdata : ∀ a ∈ data, F.head a = false) (hpart : ∀ n, n ≤ data.length → F.decode (h :: data.take n) = none) :
    (h :: data).foldl (receive F) s = { frame := h :: data, out := s.out } := by
  have hnone : F.decode [h] = none := hpart 0 (Nat.zero_le _)
  have hfirst : receive F s h = { frame := [h], out := s.out } := by
    simp only [receive, hh, if_true, hnone]
  rw [List.foldl_cons, hfirst]
  exact receive_pending rfl hdata (fun n _ hn => hpart n hn)

variable {f g : List α} {b : β}

/-- A frame that arrives whole, from any state of the receiver. -/
theorem IsFrame.receive (hf : IsFrame F f b) (s : Receiver α β) :
    f.foldl (receive F) s = { frame := [], out := s.out ++ [b] } := by
  obtain ⟨h, data, rfl, hh, hdata⟩ := hf.shape
  rcases List.eq_nil_or_concat data with rfl | ⟨most, a, rfl⟩
  · have hdec := hf.decode
    simp only [List.foldl_cons, List.foldl_nil, Framing.receive, hh, if_true, hdec]
  · rw [List.concat_eq_append] at hf hdata ⊢
    have hmost : ∀ n, n ≤ most.length → F.decode (h :: most.take n) = none := by
      intro n hn
      have hpart := hf.part (n + 1) (Nat.succ_pos n) (by simp; omega)
      rwa [List.take_succ_cons, List.take_append_of_le_length hn] at hpart
    have ha : F.head a = false := hdata a (by simp)
    have hdec : F.decode (h :: most ++ [a]) = some b := hf.decode
    rw [← List.cons_append, List.foldl_append,
      receive_unfinished s hh (fun x hx => hdata x (List.mem_append_left _ hx)) hmost]
    simp only [List.foldl_cons, List.foldl_nil, Framing.receive, ha, Bool.false_eq_true, if_false, hdec]

/-- A frame that lost data. -/
theorem Robust.receive_lost (hf : Robust F f b) (hg : Remains f g) (hne : g ≠ f) (s : Receiver α β) :
    g.foldl (Framing.receive F) s = { frame := g, out := s.out } := by
  obtain ⟨h, data, data', rfl, rfl, hsub⟩ := hg
  obtain ⟨h', data'', heq, hh, hdata⟩ := hf.shape
  rw [List.cons.injEq] at heq
  obtain ⟨rfl, rfl⟩ := heq
  have hne' : data' ≠ data := fun h' => hne (by rw [h'])
  apply receive_unfinished s hh (fun x hx => hdata x (hsub.subset hx))
  intro n _
  have htake : (data'.take n).Sublist data := (List.take_sublist n data').trans hsub
  apply hf.holes h data rfl _ htake
  intro heq
  -- as long as the whole, it is the whole
  apply hne'
  apply hsub.eq_of_length_le
  rw [← heq, List.length_take]
  exact Nat.min_le_right _ _

variable (F) in
/-- From any state of the receiver, `f` puts out `o`. -/
def Yields (f : List α) (o : List β) : Prop := ∀ s, (f.foldl (Framing.receive F) s).out = s.out ++ o

theorem IsFrame.yields (hf : IsFrame F f b) : Yields F f [b] := by
  intro s
  rw [hf.receive s]

theorem yields_unfinished {h : α} {data : List α} (hh : F.head h = true) (hdata : ∀ a ∈ data, F.head a = false)
    (hpart : ∀ n, n ≤ data.length → F.decode (h :: data.take n) = none) : Yields F (h :: data) [] := by
  intro s
  rw [receive_unfinished s hh hdata hpart, List.append_nil]

theorem Yields.flatMap {ι : Type} {f : ι → List α} {o : ι → List β} (h : ∀ i, Yields F (f i) (o i)) (is : List ι) :
    Yields F (is.flatMap f) (is.flatMap o) := by
  induction is with
  | nil => intro s; simp
  | cons i is ih =>
    intro s
    rw [List.flatMap_cons, List.foldl_append, ih, h i, List.flatMap_cons, List.append_assoc]

/-- What is put out of frames, some of which lost data. -/
def survivors [DecidableEq α] : List (List α × β) → List (List α) → List β
  | (f, b) :: fs, g :: gs => if g = f then b :: survivors fs gs else survivors fs gs
  | _, _ => []

/-- **Lost data lose whole frames, and nothing else.** -/
theorem foldl_receive_lossy [DecidableEq α] {fs : List (List α × β)} {gs : List (List α)}
    (hfs : ∀ p ∈ fs, Robust F p.1 p.2) (hgs : List.Forall₂ (fun p g => Remains p.1 g) fs gs) (s : Receiver α β) :
    (gs.flatten.foldl (Framing.receive F) s).out = s.out ++ survivors fs gs := by
  induction hgs generalizing s with
  | nil => simp [survivors]
  | @cons p g fs gs hg _ ih =>
    have hp : Robust F p.1 p.2 := hfs p List.mem_cons_self
    have hfs' : ∀ q ∈ fs, Robust F q.1 q.2 := fun q hq => hfs q (List.mem_cons_of_mem p hq)
    rw [List.flatten_cons, List.foldl_append, ih hfs', survivors]
    by_cases heq : g = p.1
    · rw [if_pos heq, heq, hp.toIsFrame.receive s, List.append_assoc]
      rfl
    · rw [if_neg heq, hp.receive_lost hg heq s]

end Framing
