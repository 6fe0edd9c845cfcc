/-!
# Integers in decimal notation

The digits of a large number are found by halves: a division by a power of ten splits a
block of digits into two shorter ones. The blocks make up the usual digits of the number.
-/

namespace Predictive

/-- The last digits of a number, as many as `count` says. -/
def lastDigits : (count : Nat) → Nat → List Char
  | 0, _ => []
  | count + 1, n => lastDigits count (n / 10) ++ [(n % 10).digitChar]

/-- The same digits, by halves down to some depth. -/
def lastDigitsByHalves : (depth count : Nat) → Nat → List Char
  | 0, count, n => lastDigits count n
  | depth + 1, count, n =>
      lastDigitsByHalves depth (count - count / 2) (n / Nat.pow 10 (count / 2)) ++
        lastDigitsByHalves depth (count / 2) (n % Nat.pow 10 (count / 2))

/-- The digits of a natural number. All but the first few are taken by halves. -/
def decimalDigits (n : Nat) : List Char :=
  let count := n.log2 * 3 / 10
  let front := n / Nat.pow 10 count
  if 0 < front then
    Nat.toDigits 10 front ++ lastDigitsByHalves (count / 32).log2 count (n % Nat.pow 10 count)
  else Nat.toDigits 10 n

/-- The digits of an integer, with a minus in front of a negative one. -/
def decimalText (value : Int) : String :=
  String.ofList ((if value < 0 then ['-'] else []) ++ decimalDigits value.natAbs)

theorem lastDigits_add (more count n : Nat) :
    lastDigits (more + count) n = lastDigits more (n / Nat.pow 10 count) ++ lastDigits count n := by
  induction count generalizing n with
  | zero => simp [lastDigits]
  | succ count ih =>
      simp only [Nat.pow_eq] at ih ⊢
      rw [← Nat.add_assoc, lastDigits, ih, lastDigits, Nat.div_div_eq_div_mul,
        ← Nat.pow_succ', List.append_assoc]

theorem lastDigits_mod (count n : Nat) :
    lastDigits count (n % Nat.pow 10 count) = lastDigits count n := by
  induction count generalizing n with
  | zero => rfl
  | succ count ih =>
      simp only [Nat.pow_eq] at ih ⊢
      rw [lastDigits, lastDigits, Nat.pow_succ', Nat.mod_mul_right_div_self, ih,
        Nat.mod_mul_right_mod]

theorem lastDigitsByHalves_eq (depth count n : Nat) :
    lastDigitsByHalves depth count n = lastDigits count n := by
  induction depth generalizing count n with
  | zero => rfl
  | succ depth ih =>
      rw [lastDigitsByHalves, ih, ih, lastDigits_mod, ← lastDigits_add,
        Nat.sub_add_cancel (Nat.div_le_self count 2)]

/-- The last digits follow the digits of what is left without them. -/
theorem toDigits_append_lastDigits
    (count n : Nat)
    (more : 0 < n / Nat.pow 10 count) :
    Nat.toDigits 10 (n / Nat.pow 10 count) ++ lastDigits count n = Nat.toDigits 10 n := by
  induction count generalizing n with
  | zero => simp [lastDigits]
  | succ count ih =>
      simp only [Nat.pow_eq] at ih more ⊢
      rw [Nat.pow_succ', ← Nat.div_div_eq_div_mul] at more ⊢
      have tenth : 0 < n / 10 := by
        rcases Nat.eq_zero_or_pos (n / 10) with noMore | someMore
        · simp [noMore] at more
        · exact someMore
      have last := Nat.toDigits_append_toDigits (by decide) tenth (Nat.mod_lt n (by decide : 0 < 10))
      rw [Nat.toDigits_of_lt_base (Nat.mod_lt n (by decide : 0 < 10)), Nat.div_add_mod] at last
      rw [lastDigits, ← List.append_assoc, ih _ more, last]

@[simp] theorem decimalDigits_eq (n : Nat) : decimalDigits n = Nat.toDigits 10 n := by
  simp only [decimalDigits]
  split
  · rename_i more
    rw [lastDigitsByHalves_eq, lastDigits_mod, toDigits_append_lastDigits _ _ more]
  · rfl

/-- An integer is written as its sign and its size. -/
theorem decimalText_eq (value : Int) :
    decimalText value = (if value < 0 then "-" else "") ++ value.natAbs.repr := by
  rw [decimalText, decimalDigits_eq, String.ofList_append, Nat.repr_eq_ofList_toDigits]
  split <;> rfl

end Predictive
