import UInventario.Foundations.Decimal

/-!
# Which texts are decimals

A program checks decimals in text against a pattern before it reads them: a minus sign or none, a
whole part of at most `w` digits without a leading zero, and, after a point, at least one and at
most `k` digits. `isSigned w k` is that pattern, `negateText` puts a minus sign before a text or
takes it off.

A text of the pattern is read, and its numerator has at most `w + k` digits
(`exists_readSigned_of_isSigned`); the text of a value has the pattern exactly when its numerator
has (`isSigned_fixedText`). `negateText` negates the value read (`readSigned_negateText`).
-/

namespace Decimal

open List

/-! ### The pattern -/

/-- At least one and at most `w` digits, the first of several not zero. -/
def isWhole (w : ℕ) : List Char → Bool
  | [] => false
  | c :: t => (c :: t).all Char.isDigit && (c ≠ '0' || t.isEmpty) && t.length < w

/-- A whole part, or a whole part, a point and at most `k` digits. -/
def isUnsigned (w k : ℕ) (t : List Char) : Bool :=
  let (whole, fraction) := splitPoint t
  isWhole w whole && (t = whole ||
    (t = whole ++ '.' :: fraction && fraction ≠ [] && fraction.length ≤ k &&
      fraction.all Char.isDigit))

/-- **The pattern of decimals with a sign.** -/
def isSigned (w k : ℕ) : List Char → Bool
  | [] => false
  | c :: t => if c = '-' then isUnsigned w k t else isUnsigned w k (c :: t)

/-- The text with the other sign. -/
def negateText : List Char → List Char
  | [] => ['-']
  | c :: t => if c = '-' then t else '-' :: c :: t

variable {w k : ℕ} {t : List Char}

/-! ### Digits -/

/-- Digits stand for less than the power of ten of their number. -/
theorem ofDigitChars_lt (h : t.all Char.isDigit = true) :
    Nat.ofDigitChars 10 t 0 < 10 ^ t.length := by
  induction t with
  | nil => simp
  | cons c t ih =>
    rw [all_cons, Bool.and_eq_true] at h
    have hc : c.toNat - '0'.toNat < 10 := by
      have hdigit := h.1
      simp only [Char.isDigit, Bool.and_eq_true, decide_eq_true_eq] at hdigit
      have hle : c.toNat ≤ 57 := hdigit.2
      have hzero : '0'.toNat = 48 := rfl
      omega
    have hrest := ih h.2
    rw [Nat.ofDigitChars_cons, Nat.ofDigitChars_eq_ofDigitChars_zero, length_cons, pow_succ]
    have hdigit : 10 ^ t.length * (10 * 0 + (c.toNat - '0'.toNat)) ≤ 10 ^ t.length * 9 :=
      Nat.mul_le_mul_left _ (by omega)
    omega

theorem head?_natText_ne_zero {n : ℕ} (hn : 0 < n) : (natText n).head? ≠ some '0' := by
  induction n using Nat.strong_induction_on with
  | _ n ih =>
    rcases Nat.lt_or_ge n 10 with hlt | hge
    · rw [natText, Nat.toDigits_of_lt_base hlt, head?_cons, Ne, Option.some.injEq,
        Nat.digitChar_eq_zero]
      omega
    · have hquot := ih (n / 10) (by omega) (by omega)
      rw [natText, Nat.toDigits_of_base_le (by decide) hge]
      rw [natText] at hquot
      cases hdigits : Nat.toDigits 10 (n / 10) with
      | nil => exact absurd hdigits Nat.toDigits_ne_nil
      | cons c u =>
        rw [hdigits] at hquot
        exact hquot

/-- A number is a whole part exactly when it has at most `w` digits. -/
theorem isWhole_natText (hw : 0 < w) (n : ℕ) : isWhole w (natText n) = true ↔ n < 10 ^ w := by
  have hlength : (natText n).length ≤ w ↔ n < 10 ^ w := Nat.length_toDigits_le_iff (by decide) hw
  have hdigits := all_isDigit_natText n
  have hhead : 0 < n → (natText n).head? ≠ some '0' := head?_natText_ne_zero
  have hzero : n = 0 → natText n = ['0'] := by
    rintro rfl
    exact Nat.toDigits_zero 10
  rw [← hlength]
  cases htext : natText n with
  | nil => exact absurd htext (natText_ne_nil n)
  | cons c u =>
    rw [htext] at hdigits hhead hzero
    have hlead : (c ≠ '0' || u.isEmpty) = true := by
      rcases Nat.eq_zero_or_pos n with h0 | hpos
      · obtain ⟨-, rfl⟩ := cons_eq_cons.mp (hzero h0)
        simp
      · have hc : c ≠ '0' := fun hc ↦ hhead hpos (congrArg some hc)
        simp [hc]
    rw [isWhole, hdigits, hlead, length_cons]
    simp only [Bool.and_self, Bool.true_and, decide_eq_true_eq]
    omega

/-! ### Reading a text of the pattern -/

theorem all_isDigit_of_isWhole (h : isWhole w t = true) :
    t.all Char.isDigit = true ∧ t ≠ [] ∧ t.length ≤ w := by
  cases t with
  | nil => exact absurd h Bool.false_ne_true
  | cons c t =>
    simp only [isWhole, Bool.and_eq_true, decide_eq_true_eq] at h
    exact ⟨h.1.1, cons_ne_nil _ _, h.2⟩

theorem parts_of_isUnsigned (h : isUnsigned w k t = true) :
    isWhole w (splitPoint t).1 = true ∧ (splitPoint t).2.all Char.isDigit = true ∧
      (splitPoint t).2.length ≤ k := by
  simp only [isUnsigned, Bool.and_eq_true, Bool.or_eq_true, decide_eq_true_eq] at h
  obtain ⟨hwhole, htext | ⟨⟨⟨-, -⟩, hlength⟩, hdigits⟩⟩ := h
  · -- without a point nothing is left after the whole part
    have hrest : t.dropWhile (· ≠ '.') = [] := by
      have hparts := takeWhile_append_dropWhile (p := (· ≠ '.')) (l := t)
      have hsame : t.takeWhile (· ≠ '.') = t := htext.symm
      rw [hsame] at hparts
      exact append_right_eq_self.mp hparts
    have hnone : (splitPoint t).2 = [] := by
      show ((t.dropWhile (· ≠ '.')).drop 1).takeWhile (· ≠ '.') = []
      rw [hrest]
      rfl
    rw [hnone]
    exact ⟨hwhole, rfl, Nat.zero_le k⟩
  · exact ⟨hwhole, hdigits, hlength⟩

theorem exists_cons_of_isUnsigned (h : isUnsigned w k t = true) : ∃ c u, t = c :: u ∧ c ≠ '-' := by
  obtain ⟨hdigits, hne, -⟩ := all_isDigit_of_isWhole (parts_of_isUnsigned h).1
  have hhead : ∀ c u, t = c :: u → c = '-' → False := by
    rintro c u rfl rfl
    have hmem : '-' ∈ (splitPoint ('-' :: u)).1 := by
      show '-' ∈ ('-' :: u).takeWhile (· ≠ '.')
      rw [takeWhile_cons_of_pos (by decide)]
      exact mem_cons_self
    exact not_mem_of_all_isDigit hdigits (by decide) hmem
  cases t with
  | nil => exact absurd rfl hne
  | cons c u => exact ⟨c, u, rfl, hhead c u rfl⟩

theorem readInt_of_digits (h : t.all Char.isDigit = true) :
    readInt t = some (Nat.ofDigitChars 10 t 0 : ℤ) := by
  rw [readInt_of_all_isDigit h, readNat, if_pos h]
  rfl

theorem all_isDigit_rightpad (h : t.all Char.isDigit = true) :
    (t.rightpad k '0').all Char.isDigit = true := by
  rw [List.rightpad, all_append, h, all_replicate]
  simp

/-- **A text of the pattern is read**, and its numerator has at most `w + k` digits. -/
theorem exists_readUnsigned_of_isUnsigned (h : isUnsigned w k t = true) :
    ∃ n : ℕ, readUnsigned k t = some (n : ℤ) ∧ n < 10 ^ (w + k) := by
  obtain ⟨hwhole, hfraction, hlength⟩ := parts_of_isUnsigned h
  obtain ⟨hdigits, -, hshort⟩ := all_isDigit_of_isWhole hwhole
  have hpadded := all_isDigit_rightpad (k := k) hfraction
  have hpadLength : ((splitPoint t).2.rightpad k '0').length = k := by
    rw [List.rightpad, length_append, length_replicate]
    omega
  refine ⟨Nat.ofDigitChars 10 (splitPoint t).1 0 * 10 ^ k +
    Nat.ofDigitChars 10 ((splitPoint t).2.rightpad k '0') 0, ?_, ?_⟩
  · rw [readUnsigned, readInt_of_digits hdigits, readInt_of_digits hpadded]
    push_cast
    rfl
  · have hw : Nat.ofDigitChars 10 (splitPoint t).1 0 < 10 ^ w :=
      (ofDigitChars_lt hdigits).trans_le (Nat.pow_le_pow_right (by decide) hshort)
    have hk := ofDigitChars_lt hpadded
    rw [hpadLength] at hk
    calc Nat.ofDigitChars 10 (splitPoint t).1 0 * 10 ^ k +
          Nat.ofDigitChars 10 ((splitPoint t).2.rightpad k '0') 0
        < (Nat.ofDigitChars 10 (splitPoint t).1 0 + 1) * 10 ^ k := by
          rw [Nat.add_mul, one_mul]
          omega
      _ ≤ 10 ^ w * 10 ^ k := Nat.mul_le_mul_right _ hw
      _ = 10 ^ (w + k) := (pow_add 10 w k).symm

theorem isSigned_of_isUnsigned (h : isUnsigned w k t = true) :
    isSigned w k t = true ∧ readSigned k t = readUnsigned k t := by
  obtain ⟨c, u, rfl, hc⟩ := exists_cons_of_isUnsigned h
  exact ⟨by rw [isSigned, if_neg hc, h], by rw [readSigned, if_neg hc]⟩

/-- **A text of the pattern stands for a number** of at most `w + k` digits. -/
theorem exists_readSigned_of_isSigned (h : isSigned w k t = true) :
    ∃ v : ℤ, readSigned k t = some v ∧ |v| < 10 ^ (w + k) := by
  cases t with
  | nil => exact absurd h Bool.false_ne_true
  | cons c t =>
    rw [isSigned] at h
    rw [readSigned]
    split at h
    case isTrue hc =>
      obtain ⟨n, hread, hlt⟩ := exists_readUnsigned_of_isUnsigned h
      rw [if_pos hc, hread]
      exact ⟨-(n : ℤ), rfl, by rw [abs_neg, abs_of_nonneg (by omega)]; exact_mod_cast hlt⟩
    case isFalse hc =>
      obtain ⟨n, hread, hlt⟩ := exists_readUnsigned_of_isUnsigned h
      rw [if_neg hc, hread]
      exact ⟨(n : ℤ), rfl, by rw [abs_of_nonneg (by omega)]; exact_mod_cast hlt⟩

/-! ### The text of a value -/

private theorem isUnsigned_fixedText (hw : 0 < w) (hk : 0 < k) {v : ℤ} (hv : 0 ≤ v) :
    isUnsigned w k (fixedText k v) = true ↔ v.natAbs < 10 ^ (w + k) := by
  have hr : v.natAbs % 10 ^ k < 10 ^ k := Nat.mod_lt _ (by positivity)
  have hfraction := all_isDigit_leftpad (k := k) (all_isDigit_natText (v.natAbs % 10 ^ k))
  have hlength := length_leftpad_natText hk hr
  have hne : (natText (v.natAbs % 10 ^ k)).leftpad k '0' ≠ [] :=
    ne_nil_of_length_pos (by omega)
  rw [isUnsigned, splitPoint_fixedText, if_neg hv.not_gt, nil_append, fixedText_of_nonneg hv]
  simp only [hfraction, hlength, hne, ne_eq, not_false_eq_true, decide_true, le_refl, Bool.and_true,
    Bool.or_true]
  rw [isWhole_natText hw, Nat.div_lt_iff_lt_mul (by positivity), ← pow_add]

/-- **The text of a value has the pattern** exactly when the value has at most `w + k` digits. -/
theorem isSigned_fixedText (hw : 0 < w) (hk : 0 < k) (v : ℤ) :
    isSigned w k (fixedText k v) = true ↔ |v| < 10 ^ (w + k) := by
  have hcast : v.natAbs < 10 ^ (w + k) ↔ |v| < 10 ^ (w + k) := by
    rw [Int.abs_eq_natAbs]
    exact_mod_cast Iff.rfl
  rw [← hcast]
  rcases lt_or_ge v 0 with hneg | hnonneg
  · rw [fixedText_of_neg hneg, isSigned, if_pos rfl,
      isUnsigned_fixedText hw hk (show 0 ≤ -v by omega), Int.natAbs_neg]
  · obtain ⟨c, t, heq, hc⟩ := fixedText_eq_cons (k := k) hnonneg
    rw [heq, isSigned, if_neg hc, ← heq, isUnsigned_fixedText hw hk hnonneg]

/-! ### The other sign -/

/-- **The text with the other sign** has the pattern too and stands for the negated number. -/
theorem readSigned_negateText (h : isSigned w k t = true) : isSigned w k (negateText t) = true ∧
      readSigned k (negateText t) = (readSigned k t).map (-·) := by
  cases t with
  | nil => exact absurd h Bool.false_ne_true
  | cons c t =>
    rw [isSigned] at h
    rw [negateText, readSigned]
    split at h
    case isTrue hc =>
      obtain ⟨hsigned, hread⟩ := isSigned_of_isUnsigned h
      rw [if_pos hc, if_pos hc, hread]
      refine ⟨hsigned, ?_⟩
      cases readUnsigned k t with
      | none => rfl
      | some v => exact congrArg some (neg_neg v).symm
    case isFalse hc =>
      rw [if_neg hc, if_neg hc, isSigned, readSigned, if_pos rfl, if_pos rfl]
      exact ⟨h, rfl⟩

end Decimal
