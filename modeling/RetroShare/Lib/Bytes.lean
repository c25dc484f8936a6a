import Mathlib.Algebra.Order.Ring.Nat
import Mathlib.Data.List.Basic

/-!
# Bytes

`Memory` is a byte memory.  `be16`, `be32` and `be64` read numbers in network order,
`Memory.read` reads a range and `Memory.store` writes one.  `Bytes.toMemory` is the memory
that holds a list of bytes from address `0` on, and zero beyond it.
-/

/-- A byte memory, by address. -/
abbrev Memory : Type := Nat → UInt8

namespace Memory

/-- The 16-bit number in network order at `p`. -/
def be16 (m : Memory) (p : Nat) : Nat :=
  (m p).toNat * 2 ^ 8 + (m (p + 1)).toNat

/-- The 32-bit number in network order at `p`. -/
def be32 (m : Memory) (p : Nat) : Nat :=
  m.be16 p * 2 ^ 16 + m.be16 (p + 2)

/-- The 64-bit number in network order at `p`. -/
def be64 (m : Memory) (p : Nat) : Nat :=
  m.be32 p * 2 ^ 32 + m.be32 (p + 4)

/-- The `n` bytes from `p` on. -/
def read (m : Memory) (p n : Nat) : List UInt8 :=
  (List.range n).map fun k => m (p + k)

/-- The memory after writing `bytes` at `p`. -/
def store (m : Memory) (p : Nat) (bytes : List UInt8) : Memory :=
  fun a => if p ≤ a ∧ a < p + bytes.length then bytes.getD (a - p) 0 else m a

theorem be16_lt (m : Memory) (p : Nat) :
  m.be16 p < 2 ^ 16
  := by
  have h := (m p).toNat_lt
  have h' := (m (p + 1)).toNat_lt
  simp only [be16]
  omega

theorem be32_lt (m : Memory) (p : Nat) :
  m.be32 p < 2 ^ 32
  := by
  have h := m.be16_lt p
  have h' := m.be16_lt (p + 2)
  simp only [be32]
  omega

variable {m : Memory} {p : Nat} {bytes : List UInt8}

/-- Memories that agree on four bytes hold the same number there. -/
theorem be32_congr {m' : Memory} {p' : Nat} (h : ∀ k < 4, m (p + k) = m' (p' + k)) :
  m.be32 p = m'.be32 p'
  := by
  have h0 := h 0 (by omega)
  have h1 := h 1 (by omega)
  have h2 := h 2 (by omega)
  have h3 := h 3 (by omega)
  simp only [Nat.add_zero] at h0
  simp only [be32, be16, Nat.add_assoc, h0, h1, h2, h3]

@[simp]
theorem length_read (m : Memory) (p n : Nat) :
  (m.read p n).length = n
  := by
  simp [read]

theorem read_eq (h : ∀ k < bytes.length, m (p + k) = bytes.getD k 0) :
  m.read p bytes.length = bytes
  := by
  apply List.ext_getElem
  · simp
  · intro k hk hk'
    simp only [read, List.getElem_map, List.getElem_range]
    rw [h k hk', List.getD_eq_getElem?_getD, List.getElem?_eq_getElem hk', Option.getD_some]

theorem store_of_lt {a : Nat} (h : a < p) :
  m.store p bytes a = m a
  := by
  rw [store, if_neg]
  omega

theorem store_add {k : Nat} (h : k < bytes.length) :
  m.store p bytes (p + k) = bytes.getD k 0
  := by
  rw [store, if_pos (by omega)]
  congr 1
  omega

end Memory

/-- The memory that holds `bytes` from address `0` on, and zero beyond them. -/
def Bytes.toMemory (bytes : List UInt8) : Memory :=
  fun a => bytes.getD a 0
