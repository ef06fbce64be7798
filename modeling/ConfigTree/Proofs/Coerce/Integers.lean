import ConfigTree.Coerce

namespace ConfigTree

namespace IntKind

theorem wrap_of_holds {k : IntKind} {i : Int} (h : k.holds i) : k.wrap i = i := by
  -- each width is a literal, so the remainder is linear arithmetic
  cases k <;> simp [holds, wrap, min, max, bits, signed] at h ⊢ <;> grind

theorem holds_wrap (k : IntKind) (i : Int) :
    k.holds (k.wrap i) ∧ ((Nat.pow 2 k.bits : Nat) : Int) ∣ k.wrap i - i := by
  cases k <;> simp [holds, wrap, min, max, bits, signed] <;> grind

theorem holds_i128_iff {k : IntKind} {i : Int} (h : k.holds i) :
    IntKind.i128.holds i ↔ ¬ (k = .u128 ∧ IntKind.i128.max < i) := by
  cases k <;> simp [holds, min, max, bits, signed] at h ⊢ <;> omega

end IntKind

theorem digitsValue_toDigits (n : Nat) : digitsValue (Nat.toDigits 10 n) = n := by
  have h : digitsValue (Nat.toDigits 10 n) = Nat.ofDigitChars 10 (Nat.toDigits 10 n) 0 := by
    simp only [digitsValue, Nat.ofDigitChars_eq_foldl, Nat.mul_comm]
  rw [h, Nat.ofDigitChars_ten_toDigits]

theorem isDigit_of_mem_toDigits {n : Nat} {c : Char} (hc : c ∈ Nat.toDigits 10 n) : c.isDigit = true :=
  Nat.isDigit_of_mem_toDigits (by decide) (by decide) hc

theorem splitSign_of_isDigit {c : Char} (hc : c.isDigit = true) (rest : List Char) :
    splitSign (c :: rest) = (false, c :: rest) := by
  -- neither sign is a digit
  have hminus : c ≠ '-' := by
    rintro rfl
    exact absurd hc (by decide)
  have hplus : c ≠ '+' := by
    rintro rfl
    exact absurd hc (by decide)
  unfold splitSign
  split
  · next heq => exact absurd (List.cons.inj heq).1 hminus
  · next heq => exact absurd (List.cons.inj heq).1 hplus
  · rfl

theorem splitSign_toDigits (n : Nat) : splitSign (Nat.toDigits 10 n) = (false, Nat.toDigits 10 n) := by
  obtain ⟨c, rest, h⟩ := List.exists_cons_of_ne_nil (Nat.toDigits_ne_nil (b := 10) (n := n))
  rw [h]
  exact splitSign_of_isDigit (isDigit_of_mem_toDigits (h ▸ List.mem_cons_self)) rest

theorem toList_toString_int (i : Int) :
    (toString i).toList =
      if 0 ≤ i then Nat.toDigits 10 i.toNat else '-' :: Nat.toDigits 10 (-i).toNat := by
  rw [Int.toString_eq_repr, Int.repr_eq_if]
  split <;> simp [Nat.toList_repr]

theorem readIntLiteral_toString (i : Int) : readIntLiteral (toString i) = some i := by
  have hdigits (n : Nat) : allDigits (Nat.toDigits 10 n) = true :=
    List.all_eq_true.mpr fun _ hc => isDigit_of_mem_toDigits hc
  have hne (n : Nat) : (Nat.toDigits 10 n).isEmpty = false :=
    List.isEmpty_eq_false_iff.mpr Nat.toDigits_ne_nil
  rw [readIntLiteral, toList_toString_int]
  by_cases hi : 0 ≤ i
  · rw [if_pos hi, splitSign_toDigits]
    simp [hne, hdigits, digitsValue_toDigits]
    omega
  · rw [if_neg hi, splitSign]
    simp [hne, hdigits, digitsValue_toDigits]
    omega

theorem contains_dot_toString (i : Int) : (toString i).contains '.' = false := by
  rw [String.contains_char_eq, toList_toString_int, decide_eq_false_iff_not]
  -- the text is digits, after a `-` for a negative integer
  have hdot (n : Nat) : '.' ∉ Nat.toDigits 10 n := fun h =>
    absurd (isDigit_of_mem_toDigits h) (by decide)
  split
  · exact hdot _
  · intro h
    rcases List.mem_cons.mp h with h | h
    · exact absurd h (by decide)
    · exact hdot _ h

theorem readTextNumber_toString (i : Int) :
    readTextNumber (toString i) = if IntKind.i128.holds i then some (.int i) else none := by
  rw [readTextNumber, contains_dot_toString, readIntLiteral_toString]
  rfl

theorem readInt_ofInt {k : IntKind} {i : Int} (h : k.holds i) :
    readInt k (Value.ofInt i) =
      if IntKind.i128.holds i then .ok i else .error (mismatch (.str (toString i)) k.name) := by
  unfold Value.ofInt
  split
  · next hfit =>
    -- a value of 64 signed bits is stored as an integer, which 128 signed bits hold too
    have hwide : IntKind.i128.holds i = true := by
      have hpow : Int.pow 2 63 = 2 ^ 63 := rfl
      simp [fitsInt64] at hfit
      simp [IntKind.holds, IntKind.min, IntKind.max, IntKind.bits, IntKind.signed]
      omega
    rw [hwide, if_pos rfl, readInt, IntKind.wrap_of_holds h]
  · rw [readInt, readTextNumber_toString]
    cases IntKind.i128.holds i
    · rfl
    · rw [if_pos rfl, if_pos rfl]
      exact congrArg Except.ok (IntKind.wrap_of_holds h)

theorem holds_i128_of_i64 {n : Int} (hn : IntKind.i64.holds n) : IntKind.i128.holds n := by
  simp [IntKind.holds, IntKind.min, IntKind.max, IntKind.bits, IntKind.signed] at hn ⊢
  omega

theorem readInt_toString_of_i64 (k : IntKind) {n : Int} (hn : IntKind.i64.holds n) :
    readInt k (.str (toString n)) = readInt k (.int n) := by
  have hint : readInt k (.int n) = .ok (k.wrap n) := rfl
  rw [hint, readInt, readTextNumber_toString, if_pos (holds_i128_of_i64 hn)]

/-- Every integer of every kind survives becoming a value and being read back as its kind, except
the values of `u128` above the greatest `i128`: they are kept as decimal text that the 128-bit
signed literal reader refuses, and reading them fails. -/
theorem integers_read_back_through_values (k : IntKind) :
    (∀ x : Int, k.holds x → ¬ (k = .u128 ∧ IntKind.i128.max < x) → readInt k (Value.ofInt x) = .ok x) ∧
      (∀ x : Int, k.holds x → k = .u128 → IntKind.i128.max < x →
        readInt k (Value.ofInt x) = .error (mismatch (.str (toString x)) k.name)) ∧
      (∀ n : Int, IntKind.i64.holds n →
        ((readString (.int n)).bind fun s => readInt k (.str s)) = readInt k (.int n) ∧
          readInt k (.int n) = .ok (k.wrap n)) ∧
      (∀ n : Int, k.holds (k.wrap n) ∧ ((Nat.pow 2 k.bits : Nat) : Int) ∣ k.wrap n - n) := by
  refine ⟨fun x hx hnot => ?_, fun x hx hk hgt => ?_, fun n hn => ⟨?_, rfl⟩, IntKind.holds_wrap k⟩
  · rw [readInt_ofInt hx, if_pos ((IntKind.holds_i128_iff hx).mpr hnot)]
  · rw [readInt_ofInt hx, if_neg fun h => (IntKind.holds_i128_iff hx).mp h ⟨hk, hgt⟩]
  · exact readInt_toString_of_i64 k hn

/-- Just above the greatest `i128`, a `u128` does not read back. -/
theorem integers_read_back_through_values_past_i128 :
    IntKind.u128.holds 170141183460469231731687303715884105728 ∧
      IntKind.i128.max < 170141183460469231731687303715884105728 ∧
      readInt .u128 (Value.ofInt 170141183460469231731687303715884105728) =
        .error (mismatch (.str "170141183460469231731687303715884105728") "u128") :=
  ⟨by decide, by decide, (integers_read_back_through_values .u128).2.1 _ (by decide) rfl (by decide)⟩

/-- The least `u128` above the greatest `i128` does not come back as itself. -/
theorem u128_past_i128_does_not_read_back :
    IntKind.u128.holds 170141183460469231731687303715884105728 ∧
      readInt .u128 (Value.ofInt 170141183460469231731687303715884105728) ≠
        .ok 170141183460469231731687303715884105728 := by
  refine ⟨by decide, fun h => ?_⟩
  rw [readInt_ofInt (by decide), if_neg (by decide)] at h
  cases h

end ConfigTree
