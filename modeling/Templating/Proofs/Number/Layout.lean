import Templating.Number.Style
import Templating.Proofs.Json.Numeral

/-!
Finite numbers are written as numbers of JSON.

The shortest digits of a number do not start with a zero, unless zero is all there is, so that each way of
laying them out around the point is read as a number.
-/

namespace Templating

namespace NumberStyle

open Json.Numeral

variable {digits : List Char} {leading : Int}

theorem isDigit_zeros (count : Nat) :
    ∀ character ∈ List.replicate count '0', character.isDigit = true := by
  intro character member
  rw [List.eq_of_mem_replicate member]
  rfl

/-- Zeros may follow on a row, unless it starts with a zero. -/
theorem isRow_append_zeros (row : IsRow digits) {count : Nat}
    (lead : digits.head? = some '0' → count = 0) : IsRow (digits ++ List.replicate count '0') where
  digits := List.forall_mem_append.mpr ⟨row.digits, isDigit_zeros count⟩
  nonempty := by simp [row.nonempty]
  lead first := by
    rw [List.head?_append, Option.or_of_isSome (List.isSome_head?.mpr row.nonempty)] at first
    simp [lead first, row.lead first]

theorem isRow_take (row : IsRow digits) {count : Nat} (long : count + 1 < digits.length) :
    IsRow (digits.take (count + 1)) where
  digits character member := row.digits character (List.mem_of_mem_take member)
  nonempty := by simp [row.nonempty]
  lead first := by
    rw [List.head?_take, if_neg (Nat.succ_ne_zero _)] at first
    have := row.lead first
    omega

theorem layPositional_isUnsigned (row : IsRow digits)
    (lead : digits.head? = some '0' → leading ≤ 0) :
    IsUnsigned (json.layPositional digits leading).toList := by
  unfold layPositional
  split
  · next negative =>
      have zero : IsRow ['0'] := ⟨isDigit_zeros 1, List.cons_ne_nil _ _, fun _ => rfl⟩
      have behind := List.forall_mem_append.mpr ⟨isDigit_zeros (-leading - 1).toNat, row.digits⟩
      have fraction := isTail_of_digits behind (by simp [row.nonempty])
      simpa [zeros] using IsUnsigned.append zero fraction
  · next positive =>
      simp only
      split
      · next short =>
          have whole : IsRow (digits ++ List.replicate (leading.toNat + 1 - digits.length) '0') := by
            apply isRow_append_zeros row
            intro first
            have := lead first
            have := row.lead first
            omega
          have fraction := isTail_of_digits (isDigit_zeros 1) (List.cons_ne_nil _ _)
          simpa [zeros, json] using IsUnsigned.append whole fraction
      · next long =>
          have whole := isRow_take row (Nat.lt_of_not_le long)
          have behind : digits.drop (leading.toNat + 1) ≠ [] := by
            rw [ne_eq, List.drop_eq_nil_iff]
            omega
          have fraction := isTail_of_digits
            (fun character member => row.digits character (List.mem_of_mem_drop member)) behind
          simpa using IsUnsigned.append whole fraction

/-- The power of ten at the end of a number. -/
theorem exists_exponent (leading : Int) :
    ∃ rest exponent, (if 0 ≤ leading then "e+" else "e").toList ++ (toString leading).toList = 'e' :: rest ∧
      exponent? ('e' :: rest) = some exponent := by
  obtain ⟨positive, negative⟩ := exponent?_toDigits leading.natAbs
  change ∃ rest exponent, _ ++ leading.repr.toList = _ ∧ _
  rw [Int.repr_eq_if]
  split
  · exact ⟨_, _, by simp [show leading.toNat = leading.natAbs by omega], positive⟩
  · exact ⟨_, _, by simp [show (-leading).toNat = leading.natAbs by omega], negative⟩

theorem layExponent_isUnsigned (row : IsRow digits) :
    IsUnsigned (json.layExponent digits leading).toList := by
  obtain ⟨first, rest, rfl⟩ := List.exists_cons_of_ne_nil row.nonempty
  have whole : IsRow [first] := ⟨fun _ member => row.digits _ (by simp_all), by simp, fun _ => rfl⟩
  obtain ⟨power, exponent, written, reads⟩ := exists_exponent leading
  have stops : Stops ('e' :: power) := by simp [Stops]
  have laid : (json.layExponent (first :: rest) leading).toList =
      [first] ++ ((if rest.isEmpty then [] else '.' :: rest) ++ 'e' :: power) := by
    rw [← written]
    cases rest <;> simp [layExponent, json]
  rw [laid]
  cases rest with
  | nil => exact .append whole (isTail_of_exponent stops (by simp) reads)
  | cons second others =>
      refine .append whole (isTail_of_point (fun _ member => row.digits _ ?_) (by simp) stops reads)
      exact List.mem_cons_of_mem first member

theorem lay_isUnsigned {decimal : Decimal} (zero : decimal.digits = 0 → decimal.exponent = 0) :
    IsUnsigned (json.lay decimal).toList := by
  have row := isRow_toDigits decimal.digits
  have lead : (Nat.toDigits 10 decimal.digits).head? = some '0' →
      decimal.exponent + (Nat.toDigits 10 decimal.digits).length - 1 ≤ 0 := by
    intro first
    have none := eq_zero_of_head?_toDigits first
    rw [zero none, row.lead first]
    decide
  simp only [lay, json]
  split
  · exact layPositional_isUnsigned row lead
  · exact layExponent_isUnsigned row

end NumberStyle

/-! ## Shortest digits -/

namespace Decimal

/-- Zero does not round to a number other than zero. -/
theorem holds_zero {significand : Nat} (positive : 0 < significand) (exponent : Int) (unit : Nat)
    {per : Nat} (grid : 0 < per) : (Interval.around significand exponent).holds 0 unit per = false := by
  have factor : 0 < if 0 ≤ exponent - 2 then 1 <<< (exponent - 2).toNat else 1 := by
    split
    · rw [Nat.shiftLeft_eq, Nat.one_mul]
      exact Nat.two_pow_pos _
    · decide
  have lower : 0 < (Interval.around significand exponent).lower := by
    unfold Interval.around
    apply Nat.mul_pos _ factor
    split <;> omega
  have below := Nat.mul_pos lower grid
  simp only [Interval.holds, Nat.zero_mul]
  split
  · rw [decide_eq_false (Nat.not_le.mpr below), Bool.false_and]
  · rw [decide_eq_false (Nat.not_lt_zero _), Bool.false_and]

theorem onGrid?_ne_zero {significand : Nat} (positive : 0 < significand) {tie : Tie}
    {exponent power : Int} {decimal : Decimal}
    (found : onGrid? (.around significand exponent) tie power = some decimal) : decimal.digits ≠ 0 := by
  have grid : 0 < Nat.pow 10 (-power).toNat := Nat.pow_pos (by decide)
  have nonzero {count : Nat} (holds : (Interval.around significand exponent).holds count
      (Nat.pow 10 power.toNat) (Nat.pow 10 (-power).toNat) = true) : count ≠ 0 := by
    rintro rfl
    rw [holds_zero positive exponent _ grid] at holds
    contradiction
  have neighbour {below : Nat} (nonzero : below ≠ 0) (nearer : Bool) :
      (if nearer then below + 1 else below) ≠ 0 := by
    cases nearer <;> simp [nonzero]
  simp only [onGrid?] at found
  split at found
  · next both =>
      cases found
      exact neighbour (nonzero (Bool.and_eq_true_iff.mp both).1) _
  · split at found
    · next low =>
        cases found
        exact nonzero low
    · split at found
      · cases found
        exact Nat.succ_ne_zero _
      · contradiction

theorem dropZeros_ne_zero {digits : Nat} (positive : digits ≠ 0) (count : Nat) (exponent : Int) :
    (dropZeros count digits exponent).digits ≠ 0 := by
  induction count generalizing digits exponent with
  | zero => exact positive
  | succ count ih =>
      unfold dropZeros
      split
      · apply ih
        omega
      · exact positive

theorem shortest_zero {tie : Tie} {significand : Nat} {exponent : Int}
    (zero : (shortest tie significand exponent).digits = 0) :
    (shortest tie significand exponent).exponent = 0 := by
  unfold shortest at zero ⊢
  split
  · rfl
  · next nonzero =>
      rw [if_neg nonzero] at zero
      simp only at zero
      split at zero
      · next found =>
          obtain ⟨more, _, found⟩ := List.exists_of_findSome?_eq_some found
          exact (dropZeros_ne_zero (onGrid?_ne_zero (Nat.pos_of_ne_zero nonzero) found) _ _ zero).elim
      · exact (nonzero zero).elim

end Decimal

/-- A finite number is written as a number. -/
theorem Binary64.exists_ofChars?_render {number : Binary64} (finite : number.isFinite = true) :
    ∃ numeral, Json.Numeral.ofChars? (number.render .json).toList = some numeral := by
  have shape : ∃ significand exponent, number.decode = .finite significand exponent := by
    simp only [isFinite, ne_eq, decide_not, Bool.not_eq_true', decide_eq_false_iff_not] at finite
    unfold decode
    rw [if_neg finite]
    split <;> exact ⟨_, _, rfl⟩
  obtain ⟨significand, exponent, decoded⟩ := shape
  have isUnsigned := NumberStyle.lay_isUnsigned (@Decimal.shortest_zero .toEven significand exponent)
  have sign : (if number.isNegative then "-" else "").toList = if number.isNegative then ['-'] else [] := by
    split <;> rfl
  simp only [render, decoded, String.toList_append, sign]
  exact isUnsigned.exists_ofChars? number.isNegative

end Templating
