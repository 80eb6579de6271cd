import Almanac.Bounds

/-!
# Almanac.Proofs.Word

Integers as a machine stores them.  A `Word` is a range of integers.  Sums, differences and products
are formed exactly and have to be held by the word, and so has a number that is converted to another
word; otherwise there is no result (`none`), and nothing can be computed from it.

A computation that is written with these operations therefore has a result exactly when none of its
intermediate results overflows, and then every one of them is the exact number.
-/

namespace Almanac

/-- A type of machine integers: all integers from the least to the greatest one. -/
structure Word where
  least : Int
  greatest : Int

namespace Word

/-- Signed words of 64 bits. -/
def int64 : Word := ⟨-9223372036854775808, 9223372036854775807⟩

/-- Unsigned words of 8 bits. -/
def nat8 : Word := ⟨0, 255⟩

/-- Unsigned words of 16 bits. -/
def nat16 : Word := ⟨0, 65535⟩

/-- Unsigned words of 32 bits. -/
def nat32 : Word := ⟨0, 4294967295⟩

/-- Places in a table.  Machines differ in how many there are; these are available on each. -/
def place : Word := ⟨0, 65535⟩

/-! ## operations -/

/-- The number in the word; a number that lies outside is not held. -/
def hold (w : Word) (n : Int) : Option Int :=
  if n < w.least ∨ w.greatest < n then none else some n

def add (w : Word) (a b : Int) : Option Int := w.hold (a + b)

def sub (w : Word) (a b : Int) : Option Int := w.hold (a - b)

def mul (w : Word) (a b : Int) : Option Int := w.hold (a * b)

/-- The difference, or the end of the word that is next to it. -/
def clampedSub (w : Word) (a b : Int) : Int := max w.least (min w.greatest (a - b))

section

variable {w : Word} {a b n : Int}

theorem hold_of_le (h : w.least ≤ n) (h' : n ≤ w.greatest) : w.hold n = some n := by
  rw [hold, if_neg (by omega)]

theorem add_of_le (h : w.least ≤ a + b) (h' : a + b ≤ w.greatest) :
    w.add a b = some (a + b) := hold_of_le h h'

theorem sub_of_le (h : w.least ≤ a - b) (h' : a - b ≤ w.greatest) :
    w.sub a b = some (a - b) := hold_of_le h h'

theorem mul_of_le (h : w.least ≤ a * b) (h' : a * b ≤ w.greatest) :
    w.mul a b = some (a * b) := hold_of_le h h'

end

/-- Whether a signed word of 64 bits holds a number. -/
theorem hold_int64 (n : Int) : int64.hold n = if FitsInt64 n then some n else none := by
  by_cases h : FitsInt64 n
  · rw [if_pos h, hold_of_le h.1 h.2]
  · have hout : n < int64.least ∨ int64.greatest < n := by
      simp only [FitsInt64, int64] at *
      omega
    rw [if_neg h, hold, if_pos hout]

/-! ## limits

The limits as facts about the words, so that `omega` can compare a number with them while the word
keeps its name. -/

theorem int64_limits :
    int64.least = -9223372036854775808 ∧ int64.greatest = 9223372036854775807 := ⟨rfl, rfl⟩

theorem nat8_limits : nat8.least = 0 ∧ nat8.greatest = 255 := ⟨rfl, rfl⟩

theorem nat16_limits : nat16.least = 0 ∧ nat16.greatest = 65535 := ⟨rfl, rfl⟩

theorem nat32_limits : nat32.least = 0 ∧ nat32.greatest = 4294967295 := ⟨rfl, rfl⟩

theorem place_limits : place.least = 0 ∧ place.greatest = 65535 := ⟨rfl, rfl⟩

end Word

end Almanac
