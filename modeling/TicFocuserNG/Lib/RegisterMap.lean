import Mathlib.Data.Nat.Digits.Defs

/- Registers in a block of bytes, each at its offset with the least significant byte
   first.

     1. `ofDigits_bytes`: the bytes of a number, put together again.
     2. `read_block`: where no two registers share an address, what is read at the
        offset of a register is its value, as far as its width holds it. -/
namespace RegisterMap

variable {ι : Type} (offset width : ι → Nat)

/-- The two share no address. -/
def Apart (i j : ι) : Prop := offset i + width i ≤ offset j ∨ offset j + width j ≤ offset i

instance (i j : ι) : Decidable (Apart offset width i j) := inferInstanceAs (Decidable (_ ∨ _))

def covers (a : Nat) (i : ι) : Bool := decide (offset i ≤ a ∧ a < offset i + width i)

/-- The byte at the address `a` of a block that holds the values of the registers `is`. -/
def block (is : List ι) (value : ι → Nat) (a : Nat) : Nat :=
  match is.find? (covers offset width a) with
  | some i => value i / 256 ^ (a - offset i) % 256
  | none => 0

/-- The number in `n` bytes from the address `a` on. -/
def read (bytes : Nat → Nat) (a n : Nat) : Nat := Nat.ofDigits 256 ((List.range n).map fun k => bytes (a + k))

/-- Bytes that go on into those of a higher address. -/
theorem read_add (bytes : Nat → Nat) (a m n : Nat) :
    read bytes a (m + n) = read bytes a m + 256 ^ m * read bytes (a + m) n := by
  rw [read, List.range_add, List.map_append, Nat.ofDigits_append, List.length_map, List.length_range, List.map_map]
  simp only [read, Function.comp_def, Nat.add_assoc]

theorem ofDigits_bytes (v n : Nat) :
    Nat.ofDigits 256 ((List.range n).map fun k => v / 256 ^ k % 256) = v % 256 ^ n := by
  induction n with
  | zero => simp [Nat.mod_one]
  | succ n ih =>
    rw [List.range_succ, List.map_append, Nat.ofDigits_append, ih, List.length_map, List.length_range, Nat.mod_pow_succ]
    simp only [List.map_cons, List.map_nil, Nat.ofDigits_singleton]

variable {offset width} {is : List ι} {i : ι} {a : Nat}

theorem not_covers_of_apart {j : ι} (h : Apart offset width j i) (hi : covers offset width a i = true) :
    covers offset width a j = false := by
  rw [covers, decide_eq_true_eq] at hi
  rw [covers, decide_eq_false_iff_not]
  rcases h with h | h <;> omega

/-- The register that an address belongs to. -/
theorem find_covering (hapart : is.Pairwise (Apart offset width)) (hmem : i ∈ is) (hi : covers offset width a i = true) :
    is.find? (covers offset width a) = some i := by
  induction hapart with
  | nil => cases hmem
  | cons hj _ ih =>
    rcases List.mem_cons.mp hmem with rfl | hmem
    · exact List.find?_cons_of_pos hi
    · have hnot := not_covers_of_apart (hj i hmem) hi
      rw [List.find?_cons_of_neg (Bool.not_eq_true _ ▸ hnot), ih hmem]

theorem read_block (hapart : is.Pairwise (Apart offset width)) (hmem : i ∈ is) (value : ι → Nat) :
    read (block offset width is value) (offset i) (width i) = value i % 256 ^ width i := by
  rw [← ofDigits_bytes, read]
  congr 1
  apply List.map_congr_left
  intro k hk
  have hlt := List.mem_range.mp hk
  have hi : covers offset width (offset i + k) i = true := decide_eq_true ⟨Nat.le_add_right _ _, by omega⟩
  simp only [block, find_covering hapart hmem hi, Nat.add_sub_cancel_left]

end RegisterMap
