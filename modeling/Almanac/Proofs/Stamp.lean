import Almanac.Calendar.Stamp
import Almanac.Proofs.Digits

/-!
# Almanac.Proofs.Stamp

The characters of the RFC 3339 form: digits and a handful of separators (`formed_stampChars`), of
which `Z` is the last one.
-/

namespace Almanac.Instant

/-- The characters that stand between the digits of a form, and at its end. -/
def separators : List Char := ['-', 'T', ':', '.', 'Z']

/-- Text of digits and separators. -/
def Formed (cs : List Char) : Prop := ∀ c ∈ cs, c.isDigit ∨ c ∈ separators

namespace Formed

theorem nil : Formed [] := fun _ h => by contradiction

theorem cons {c : Char} {cs : List Char} (hc : c ∈ separators) (h : Formed cs) :
    Formed (c :: cs) :=
  List.forall_mem_cons.2 ⟨.inr hc, h⟩

theorem append {cs ds : List Char} (hc : Formed cs) (hd : Formed ds) : Formed (cs ++ ds) :=
  List.forall_mem_append.2 ⟨hc, hd⟩

theorem padded (width n : Nat) : Formed (Decimal.padded width n) :=
  fun _ h => .inl (Decimal.isDigit_of_mem_padded h)

end Formed

/-! ## the parts of a form -/

theorem formed_yearChars (year : Int) : Formed (yearChars year) := by
  unfold yearChars
  apply Formed.append
  · split
    · exact .cons (by decide) .nil
    · exact .nil
  · exact .padded 4 _

theorem formed_fractionChars (nanos : Nat) : Formed (fractionChars nanos) := by
  unfold fractionChars
  split
  · exact .nil
  · exact .cons (by decide) (.padded _ _)

theorem formed_civilChars (civil : CivilTime) : Formed (civilChars civil) := by
  have field {c : Char} {n : Nat} (hc : c ∈ separators) : Formed (c :: Decimal.padded 2 n) :=
    .cons hc (.padded 2 n)
  unfold civilChars
  refine .append (.append (.append (.append (.append ?_ ?_) ?_) ?_) ?_) ?_
  · exact formed_yearChars _
  all_goals exact field (by decide)

/-! ## the whole form -/

/-- A form holds nothing but digits and separators. -/
theorem formed_stampChars (t : Instant) : Formed t.stampChars := by
  unfold stampChars
  apply Formed.append
  · exact (formed_civilChars t.civil).append (formed_fractionChars t.nanos)
  · exact .cons (by decide) .nil

theorem toList_stamp (t : Instant) : t.stamp.toList = t.stampChars := String.toList_ofList

/-- No line ends inside of a form. -/
theorem newline_not_mem_stamp (t : Instant) : '\n' ∉ t.stamp.toList := by
  rw [toList_stamp]
  intro h
  obtain h | h := formed_stampChars t _ h <;> contradiction

/-- The last character of a form is `Z`. -/
theorem getLast?_stamp (t : Instant) : t.stamp.toList.getLast? = some 'Z' := by
  rw [toList_stamp, stampChars, List.getLast?_concat]

end Almanac.Instant
