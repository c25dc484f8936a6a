import RetroShare.Lib.Bytes

/-!
# Encoders

An encoder writes into a memory at an offset, moves the offset, and tells whether it succeeded.
`Writes` gives the bytes that it writes.  A `Component` of a format is an encoder that respects a
limit, together with its bytes; `writes_parts` is the rule for a list of components.
-/

namespace Memory

variable (m : Memory)

@[simp]
theorem store_nil (p : Nat) :
  m.store p [] = m
  := by
  funext a
  rw [store, if_neg (by simp only [List.length_nil]; omega)]

/-- Bytes that are written one after the other. -/
theorem store_append (p : Nat) (bytes bytes' : List UInt8) :
  m.store p (bytes ++ bytes') = (m.store p bytes).store (p + bytes.length) bytes'
  := by
  funext a
  rw [store, store, store, List.length_append]
  by_cases hlow : a < p + bytes.length
  case pos =>
    rw [if_neg (show ¬(p + bytes.length ≤ a ∧ _) by omega)]
    by_cases hp : p ≤ a
    case pos =>
      rw [if_pos ⟨hp, by omega⟩, if_pos ⟨hp, hlow⟩]
      simp only [List.getD_eq_getElem?_getD]
      rw [List.getElem?_append_left (by omega)]
    case neg => rw [if_neg (by omega), if_neg (by omega)]
  case neg =>
    by_cases hhigh : a < p + bytes.length + bytes'.length
    case pos =>
      rw [if_pos ⟨by omega, by omega⟩, if_pos ⟨by omega, hhigh⟩]
      simp only [List.getD_eq_getElem?_getD]
      rw [List.getElem?_append_right (by omega), Nat.sub_sub]
    case neg =>
      rw [if_neg (by omega), if_neg (by omega), if_neg (by omega)]

end Memory

/-- What an encoder does: whether it succeeded, the memory, and the offset it ends at. -/
structure Written where
  ok : Bool
  data : Memory
  offset : Nat

/-- An encoder, run on a memory at an offset. -/
def Encoder : Type := Memory → Nat → Written

namespace Encoder

/-- The encoders one after the other, whether or not those before succeeded. -/
def all : List Encoder → Encoder
  | [], data, offset => ⟨true, data, offset⟩
  | x :: xs, data, offset =>
      let first := x data offset
      let rest := all xs first.data first.offset
      ⟨first.ok && rest.ok, rest.data, rest.offset⟩

/-- The encoders one after the other, until one of them fails. -/
def whileOk : List Encoder → Encoder
  | [], data, offset => ⟨true, data, offset⟩
  | x :: xs, data, offset =>
      let first := x data offset
      if first.ok then whileOk xs first.data first.offset else first

/-- The encoder succeeds at `p`, and writes `bytes` there. -/
def Writes (x : Encoder) (p : Nat) (bytes : List UInt8) : Prop :=
  ∀ data, x data p = ⟨true, data.store p bytes, p + bytes.length⟩

theorem writes_nil (p : Nat) :
  Writes (all []) p []
  := by
  intro data
  simp [all]

variable {bytes' bytes : List UInt8} {xs : List Encoder} {x : Encoder}

theorem Writes.cons {p : Nat} (h : Writes x p bytes)
    (h' : Writes (all xs) (p + bytes.length) bytes') :
  Writes (all (x :: xs)) p (bytes ++ bytes')
  := by
  intro data
  simp only [all, h data, h' (data.store p bytes)]
  rw [Memory.store_append, List.length_append, Nat.add_assoc]
  rfl

theorem writes_whileOk_nil (p : Nat) :
  Writes (whileOk []) p []
  := by
  intro data
  simp [whileOk]

theorem Writes.cons_whileOk {p : Nat} (h : Writes x p bytes)
    (h' : Writes (whileOk xs) (p + bytes.length) bytes') :
  Writes (whileOk (x :: xs)) p (bytes ++ bytes')
  := by
  intro data
  simp only [whileOk, h data, if_true, h' (data.store p bytes)]
  rw [Memory.store_append, List.length_append, Nat.add_assoc]

/-- A part of a format: its encoder, given the end of the room, and the bytes that it writes when
these fit. -/
structure Component (bound : Nat) where
  bytes : List UInt8
  set : Nat → Encoder
  writes : ∀ size p, p + bytes.length ≤ size → size < bound → Writes (set size) p bytes

namespace Component

variable {bound : Nat}

/-- The bytes of some parts. -/
def bytesOf (parts : List (Component bound)) : List UInt8 := parts.flatMap Component.bytes

@[simp]
theorem bytesOf_nil :
  bytesOf ([] : List (Component bound)) = []
  := rfl

@[simp]
theorem bytesOf_cons (part : Component bound) (parts : List (Component bound)) :
  bytesOf (part :: parts) = part.bytes ++ bytesOf parts
  := rfl

/-- The encoders of some parts. -/
def setAll (parts : List (Component bound)) (size : Nat) : Encoder :=
  all (parts.map fun part => part.set size)

theorem writes_parts {size : Nat} (hbound : size < bound) :
  ∀ (parts : List (Component bound)) (p : Nat), p + (bytesOf parts).length ≤ size →
    Writes (setAll parts size) p (bytesOf parts)
  | [], p, _ => writes_nil p
  | part :: parts, p, hroom => by
      rw [bytesOf_cons, List.length_append] at hroom
      have hfirst := part.writes size p (by omega) hbound
      have hrest := writes_parts hbound parts (p + part.bytes.length) (by omega)
      exact hfirst.cons hrest

end Component

end Encoder
