import Mathlib.Algebra.Order.Ring.Int
import Mathlib.Data.List.TakeWhile
import Mathlib.Tactic.Positivity
import Mathlib.Tactic.Ring

/-!
# Fixed-point decimals as text

A database hands the value of a fixed-point column over as text, and a program that computes with
integers reads it into the numerator. `k` is the number of digits after the point.

* `fixedText k v` is the text of the value with numerator `v`.
* `readSigned k` takes the sign off before it reads the parts; `readUnsigned k` and `readTruncated
  k` read the parts one by one, so that only the whole part sees the sign. `readColumn k` is what a
  column makes of a text.
* `quotientText k v` prints quotient and remainder of the truncating division one by one.

`readSigned_fixedText` and `readColumn_fixedText` are round trips; `readUnsigned_fixedText` says
what becomes of a negative value (`misread`), and `readColumn_quotientText` that the printer without
a sign of its own is right exactly on what is not negative or whole.
-/

namespace Decimal

open List

/-! ### Digits -/

/-- The digits of a natural number. -/
def natText (n : ℕ) : List Char :=
  Nat.toDigits 10 n

/-- The text of an integer. -/
def intText (z : ℤ) : List Char :=
  if z < 0 then '-' :: natText z.natAbs else natText z.natAbs

/-- Reads digits; no digits at all are zero. -/
def readNat (t : List Char) : Option ℕ :=
  if t.all Char.isDigit then some (Nat.ofDigitChars 10 t 0) else none

/-- Reads digits with or without a minus sign before them. -/
def readInt : List Char → Option ℤ
  | [] => some 0
  | c :: t =>
    if c = '-' then (if t = [] then none else (readNat t).map fun n : ℕ ↦ -(n : ℤ))
    else (readNat (c :: t)).map fun n : ℕ ↦ (n : ℤ)

@[simp] theorem intText_natCast (n : ℕ) : intText (n : ℤ) = natText n := by
  rw [intText, if_neg (by omega), Int.natAbs_natCast]

variable {n : ℕ} {c : Char}

theorem isDigit_of_mem_natText (h : c ∈ natText n) : c.isDigit = true :=
  Nat.isDigit_of_mem_toDigits (by decide) (by decide) h

theorem natText_ne_nil (n : ℕ) : natText n ≠ [] :=
  Nat.toDigits_ne_nil

variable {t : List Char} {k : ℕ}

theorem not_mem_of_all_isDigit (h : t.all Char.isDigit = true) (hc : c.isDigit = false) :
    c ∉ t := by
  intro hmem
  have := all_eq_true.mp h c hmem
  rw [hc] at this
  cases this

theorem all_isDigit_natText (n : ℕ) : (natText n).all Char.isDigit = true :=
  all_eq_true.mpr fun _ hc ↦ isDigit_of_mem_natText hc

@[simp] theorem readNat_natText (n : ℕ) : readNat (natText n) = some n := by
  rw [readNat, if_pos (all_isDigit_natText n), natText, Nat.ofDigitChars_ten_toDigits]

theorem readInt_of_all_isDigit (h : t.all Char.isDigit = true) :
    readInt t = (readNat t).map fun n : ℕ ↦ (n : ℤ) := by
  cases t with
  | nil => rfl
  | cons c t =>
    have hc : c ≠ '-' := by
      rintro rfl
      exact not_mem_of_all_isDigit h (by decide) mem_cons_self
    rw [readInt, if_neg hc]

@[simp] theorem readInt_natText (n : ℕ) : readInt (natText n) = some (n : ℤ) := by
  rw [readInt_of_all_isDigit (all_isDigit_natText n), readNat_natText]
  rfl

/-! ### Padding -/

theorem all_isDigit_leftpad (h : t.all Char.isDigit = true) :
    (t.leftpad k '0').all Char.isDigit = true := by
  rw [List.leftpad, all_append, h, all_replicate]
  simp

@[simp] theorem readNat_leftpad_natText (k n : ℕ) :
    readNat ((natText n).leftpad k '0') = some n := by
  rw [readNat, if_pos (all_isDigit_leftpad (all_isDigit_natText n)), List.leftpad,
    Nat.ofDigitChars_append, Nat.ofDigitChars_replicate_zero, Nat.mul_zero, natText,
    Nat.ofDigitChars_ten_toDigits]

theorem length_leftpad_natText (hk : 0 < k) (hn : n < 10 ^ k) :
    ((natText n).leftpad k '0').length = k := by
  have hlength : (natText n).length ≤ k := (Nat.length_toDigits_le_iff (by decide) hk).mpr hn
  rw [length_leftpad]
  exact max_eq_left hlength

theorem rightpad_of_length (h : t.length = k) : t.rightpad k '0' = t := by
  rw [List.rightpad, h, Nat.sub_self]
  simp

/-! ### The text of a value and its parts -/

/-- What stands before the first point, and between it and the next one. -/
def splitPoint (t : List Char) : List Char × List Char :=
  (t.takeWhile (· ≠ '.'), ((t.dropWhile (· ≠ '.')).drop 1).takeWhile (· ≠ '.'))

/-- The text of the value with numerator `v` and `k` digits after the point. -/
def fixedText (k : ℕ) (v : ℤ) : List Char :=
  (if v < 0 then ['-'] else []) ++ natText (v.natAbs / 10 ^ k) ++
    '.' :: (natText (v.natAbs % 10 ^ k)).leftpad k '0'

theorem splitPoint_append {whole fraction : List Char} (hwhole : '.' ∉ whole)
    (hfraction : '.' ∉ fraction) : splitPoint (whole ++ '.' :: fraction) = (whole, fraction) := by
  have htake : ∀ l : List Char, '.' ∉ l → ∀ m : List Char,
      (l ++ '.' :: m).takeWhile (· ≠ '.') = l ∧ (l ++ '.' :: m).dropWhile (· ≠ '.') = '.' :: m := by
    intro l hl m
    induction l with
    | nil => simp
    | cons c l ih =>
      have hc : c ≠ '.' := fun hc ↦ hl (hc ▸ mem_cons_self)
      obtain ⟨htake, hdrop⟩ := ih fun h ↦ hl (mem_cons_of_mem c h)
      simp only [cons_append, takeWhile_cons, dropWhile_cons, hc, ne_eq,
        not_false_eq_true, decide_true, if_true]
      exact ⟨congrArg (c :: ·) htake, hdrop⟩
  have hrest : fraction.takeWhile (· ≠ '.') = fraction := by
    rw [takeWhile_eq_self_iff]
    intro c hc
    simpa using fun h : c = '.' ↦ hfraction (h ▸ hc)
  obtain ⟨h₁, h₂⟩ := htake whole hwhole fraction
  rw [splitPoint, h₁, h₂]
  simp only [drop_succ_cons, drop_zero, hrest]

/-! ### Readers -/

/-- Reads whole part and fraction one by one; the fraction is padded to `k` digits. -/
def readUnsigned (k : ℕ) (t : List Char) : Option ℤ := do
  let whole ← readInt (splitPoint t).1
  let fraction ← readInt ((splitPoint t).2.rightpad k '0')
  some (whole * 10 ^ k + fraction)

/-- The same for a reader that drops the digits after the `k`-th. -/
def readTruncated (k : ℕ) (t : List Char) : Option ℤ := do
  let whole ← readInt (splitPoint t).1
  let fraction ← readInt (((splitPoint t).2.rightpad k '0').take k)
  some (whole * 10 ^ k + fraction)

/-- Puts the parts together again with the fraction padded to `k` digits. -/
def padFraction (k : ℕ) (t : List Char) : List Char :=
  (splitPoint t).1 ++ '.' :: (splitPoint t).2.rightpad k '0'

/-- Takes a minus sign off and reads the rest. -/
def readSigned (k : ℕ) : List Char → Option ℤ
  | [] => readUnsigned k []
  | c :: t => if c = '-' then (readUnsigned k t).map (-·) else readUnsigned k (c :: t)

/-- What `readUnsigned` makes of the value with numerator `v`: the fraction of a negative value is
added to its whole part. -/
def misread (k : ℕ) (v : ℤ) : ℤ :=
  if v < 0 then -(v.natAbs / 10 ^ k : ℕ) * 10 ^ k + (v.natAbs % 10 ^ k : ℕ) else v

variable {k : ℕ} {w : ℤ}

private theorem readUnsigned_parts {sign : List Char} {r : ℕ} (hk : 0 < k)
    (hr : r < 10 ^ k) (hsign : '.' ∉ sign) (hw : readInt (sign ++ natText n) = some w) :
    readUnsigned k (sign ++ natText n ++ '.' :: (natText r).leftpad k '0') =
      some (w * 10 ^ k + r) := by
  have hfraction := all_isDigit_leftpad (k := k) (all_isDigit_natText r)
  rw [readUnsigned, splitPoint_append, hw, rightpad_of_length (length_leftpad_natText hk hr),
    readInt_of_all_isDigit hfraction, readNat_leftpad_natText]
  · rfl
  · rw [mem_append, not_or]
    exact ⟨hsign, not_mem_of_all_isDigit (all_isDigit_natText n) (by decide)⟩
  · exact not_mem_of_all_isDigit hfraction (by decide)

theorem natAbs_parts (k : ℕ) (v : ℤ) :
    ((v.natAbs / 10 ^ k : ℕ) : ℤ) * 10 ^ k + (v.natAbs % 10 ^ k : ℕ) = v.natAbs := by
  have h := Nat.div_add_mod v.natAbs (10 ^ k)
  calc ((v.natAbs / 10 ^ k : ℕ) : ℤ) * 10 ^ k + (v.natAbs % 10 ^ k : ℕ)
      = ((10 ^ k * (v.natAbs / 10 ^ k) + v.natAbs % 10 ^ k : ℕ) : ℤ) := by push_cast; ring
    _ = v.natAbs := by rw [h]

theorem splitPoint_fixedText (v : ℤ) : splitPoint (fixedText k v) =
      ((if v < 0 then ['-'] else []) ++ natText (v.natAbs / 10 ^ k),
        (natText (v.natAbs % 10 ^ k)).leftpad k '0') := by
  rw [fixedText, splitPoint_append]
  · rw [mem_append, not_or]
    refine ⟨?_, not_mem_of_all_isDigit (all_isDigit_natText _) (by decide)⟩
    split <;> decide
  · exact not_mem_of_all_isDigit (all_isDigit_leftpad (all_isDigit_natText _)) (by decide)

private theorem rightpad_fraction (hk : 0 < k) (v : ℤ) :
    (splitPoint (fixedText k v)).2.rightpad k '0' = (splitPoint (fixedText k v)).2 := by
  rw [splitPoint_fixedText]
  exact rightpad_of_length (length_leftpad_natText hk (Nat.mod_lt _ (by positivity)))

@[simp] theorem padFraction_fixedText (hk : 0 < k) (v : ℤ) :
    padFraction k (fixedText k v) = fixedText k v := by
  rw [padFraction, rightpad_fraction hk, splitPoint_fixedText, fixedText]

theorem readTruncated_fixedText (hk : 0 < k) (v : ℤ) :
    readTruncated k (fixedText k v) = readUnsigned k (fixedText k v) := by
  have hlength : (splitPoint (fixedText k v)).2.length = k := by
    rw [splitPoint_fixedText]
    exact length_leftpad_natText hk (Nat.mod_lt _ (by positivity))
  rw [readTruncated, readUnsigned, rightpad_fraction hk, take_of_length_le hlength.le]

/-- **The reader without a sign of its own** adds the fraction of a negative value. -/
theorem readUnsigned_fixedText (hk : 0 < k) (v : ℤ) :
    readUnsigned k (fixedText k v) = some (misread k v) := by
  have hr : v.natAbs % 10 ^ k < 10 ^ k := Nat.mod_lt _ (by positivity)
  rw [fixedText, misread]
  split
  case isTrue hneg =>
    have hw : readInt (['-'] ++ natText (v.natAbs / 10 ^ k)) =
        some (-((v.natAbs / 10 ^ k : ℕ) : ℤ)) := by
      rw [singleton_append, readInt, if_pos rfl, if_neg (natText_ne_nil _), readNat_natText]
      rfl
    exact readUnsigned_parts hk hr (by decide) hw
  case isFalse hnonneg =>
    have hw : readInt ([] ++ natText (v.natAbs / 10 ^ k)) =
        some ((v.natAbs / 10 ^ k : ℕ) : ℤ) := readInt_natText _
    rw [readUnsigned_parts hk hr (by simp) hw, natAbs_parts]
    congr 1
    omega

variable {v : ℤ}

theorem misread_of_nonneg (h : 0 ≤ v) : misread k v = v := by
  rw [misread, if_neg (by omega)]

theorem le_misread (k : ℕ) (v : ℤ) : v ≤ misread k v := by
  have h := natAbs_parts k v
  rw [misread, neg_mul]
  split
  · omega
  · exact le_rfl

/-- A negative value is read as a positive one exactly when its whole part is zero. -/
theorem misread_pos_iff (hneg : v < 0) : 0 < misread k v ↔ -10 ^ k < v := by
  have hr : v.natAbs % 10 ^ k < 10 ^ k := Nat.mod_lt _ (by positivity)
  have h := natAbs_parts k v
  have hpow : ((10 ^ k : ℕ) : ℤ) = 10 ^ k := by push_cast; rfl
  rw [misread, if_pos hneg, neg_mul]
  constructor
  · intro hpos
    by_contra hcon
    have hq : 1 ≤ v.natAbs / 10 ^ k := by
      rw [Nat.one_le_div_iff (by positivity)]
      omega
    have : (10 : ℤ) ^ k ≤ ((v.natAbs / 10 ^ k : ℕ) : ℤ) * 10 ^ k := by
      calc (10 : ℤ) ^ k = 1 * 10 ^ k := (one_mul _).symm
        _ ≤ _ := mul_le_mul_of_nonneg_right (by exact_mod_cast hq) (by positivity)
    omega
  · intro hv
    have hq : v.natAbs / 10 ^ k = 0 := Nat.div_eq_of_lt (by omega)
    have hmod : v.natAbs % 10 ^ k = v.natAbs := Nat.mod_eq_of_lt (by omega)
    rw [hq, hmod]
    omega

/-- **A value is read as what it is** exactly when it is not negative or has no fraction. -/
theorem misread_eq_self_iff : misread k v = v ↔ 0 ≤ v ∨ (10 : ℤ) ^ k ∣ v := by
  rcases lt_or_ge v 0 with hneg | hnonneg
  · have h := natAbs_parts k v
    have hdvd : (10 : ℤ) ^ k ∣ v ↔ v.natAbs % 10 ^ k = 0 := by
      rw [← Nat.dvd_iff_mod_eq_zero, ← Int.natCast_dvd]
      push_cast
      rfl
    rw [misread, if_pos hneg, neg_mul, hdvd]
    constructor
    · intro heq
      refine Or.inr ?_
      omega
    · intro hzero
      have := hzero.resolve_left (by omega)
      omega
  · exact iff_of_true (misread_of_nonneg hnonneg) (Or.inl hnonneg)

theorem fixedText_of_nonneg (h : 0 ≤ v) : fixedText k v = natText (v.natAbs / 10 ^ k) ++
      '.' :: (natText (v.natAbs % 10 ^ k)).leftpad k '0' := by
  rw [fixedText, if_neg (by omega), nil_append]

theorem fixedText_of_neg (h : v < 0) : fixedText k v = '-' :: fixedText k (-v) := by
  rw [fixedText_of_nonneg (show 0 ≤ -v by omega), fixedText, if_pos h, Int.natAbs_neg]
  rfl

/-- The text of a value that is not negative starts with a digit. -/
theorem fixedText_eq_cons (h : 0 ≤ v) : ∃ c t, fixedText k v = c :: t ∧ c ≠ '-' := by
  rw [fixedText_of_nonneg h]
  cases hwhole : natText (v.natAbs / 10 ^ k) with
  | nil => exact absurd hwhole (natText_ne_nil _)
  | cons c t =>
    refine ⟨c, _, rfl, ?_⟩
    rintro rfl
    have := isDigit_of_mem_natText (hwhole ▸ mem_cons_self : '-' ∈ natText _)
    revert this
    decide

/-- **The reader that takes the sign off** is right on every value. -/
theorem readSigned_fixedText (hk : 0 < k) (v : ℤ) : readSigned k (fixedText k v) = some v := by
  rcases lt_or_ge v 0 with hneg | hnonneg
  · rw [fixedText_of_neg hneg, readSigned, if_pos rfl, readUnsigned_fixedText hk,
      misread_of_nonneg (by omega)]
    simp
  · obtain ⟨c, t, heq, hc⟩ := fixedText_eq_cons (k := k) hnonneg
    rw [heq, readSigned, if_neg hc, ← heq, readUnsigned_fixedText hk, misread_of_nonneg hnonneg]

theorem fixedText_inj (hk : 0 < k) : fixedText k v = fixedText k w ↔ v = w := by
  refine ⟨fun h ↦ ?_, congrArg _⟩
  have hread := readSigned_fixedText hk v
  rw [h, readSigned_fixedText hk w] at hread
  exact (Option.some.inj hread).symm

/-! ### Columns -/

/-- The digits of a number of the format `digits` or `digits.digits`, at most `k` after the point.
-/
def readFormat (k : ℕ) (t : List Char) : Option ℤ :=
  let (whole, fraction) := splitPoint t
  if whole ≠ [] ∧ whole.all Char.isDigit ∧ fraction.all Char.isDigit ∧ fraction.length ≤ k ∧
      (t = whole ∨ t = whole ++ '.' :: fraction) then
    some (Nat.ofDigitChars 10 whole 0 * 10 ^ k + Nat.ofDigitChars 10 (fraction.rightpad k '0') 0)
  else none

/-- **What a column with `k` digits after the point makes of a text**: no value when the text is not
a number of that format. -/
def readColumn (k : ℕ) : List Char → Option ℤ
  | [] => none
  | c :: t => if c = '-' then (readFormat k t).map (-·) else readFormat k (c :: t)

private theorem readFormat_fixedText (hk : 0 < k) (h : 0 ≤ v) :
    readFormat k (fixedText k v) = some v := by
  have hr : v.natAbs % 10 ^ k < 10 ^ k := Nat.mod_lt _ (by positivity)
  have hfraction := all_isDigit_leftpad (k := k) (all_isDigit_natText (v.natAbs % 10 ^ k))
  have hlength := length_leftpad_natText hk hr
  have hread := readNat_leftpad_natText k (v.natAbs % 10 ^ k)
  have hwhole := readNat_natText (v.natAbs / 10 ^ k)
  rw [readNat, if_pos hfraction, Option.some.injEq] at hread
  rw [readNat, if_pos (all_isDigit_natText _), Option.some.injEq] at hwhole
  rw [readFormat, splitPoint_fixedText, if_neg h.not_gt, nil_append, fixedText_of_nonneg h]
  simp only [hfraction, hlength, all_isDigit_natText, ne_eq, natText_ne_nil, not_false_eq_true,
    le_refl, or_true, and_self, if_true, rightpad_of_length hlength, hread, hwhole,
    Option.some.injEq]
  rw [natAbs_parts]
  omega

/-- **A value comes back out of its column.** -/
theorem readColumn_fixedText (hk : 0 < k) (v : ℤ) : readColumn k (fixedText k v) = some v := by
  rcases lt_or_ge v 0 with hneg | hnonneg
  · rw [fixedText_of_neg hneg, readColumn, if_pos rfl, readFormat_fixedText hk (by omega)]
    simp
  · obtain ⟨c, t, heq, hc⟩ := fixedText_eq_cons (k := k) hnonneg
    rw [heq, readColumn, if_neg hc, ← heq, readFormat_fixedText hk hnonneg]

/-! ### The printer without a sign of its own -/

/-- Quotient and remainder of the truncating division, printed one by one. -/
def quotientText (k : ℕ) (v : ℤ) : List Char :=
  intText (v.tdiv (10 ^ k)) ++ '.' :: (intText (v.tmod (10 ^ k))).leftpad k '0'

theorem quotientText_of_nonneg (h : 0 ≤ v) : quotientText k v = fixedText k v := by
  obtain ⟨n, rfl⟩ := Int.eq_ofNat_of_zero_le h
  have hq : (n : ℤ).tdiv (10 ^ k) = ((n / 10 ^ k : ℕ) : ℤ) := by
    rw [Int.tdiv_eq_ediv_of_nonneg (by omega)]
    push_cast
    rfl
  have hr : (n : ℤ).tmod (10 ^ k) = ((n % 10 ^ k : ℕ) : ℤ) := by
    rw [Int.tmod_eq_emod_of_nonneg (by omega)]
    push_cast
    rfl
  rw [quotientText, fixedText_of_nonneg h, hq, hr, intText_natCast, intText_natCast,
    Int.natAbs_natCast]

theorem quotientText_of_dvd (h : (10 : ℤ) ^ k ∣ v) : quotientText k v = fixedText k v := by
  rcases lt_or_ge v 0 with hneg | hnonneg
  · obtain ⟨q, rfl⟩ := h
    have hpow : (0 : ℤ) < 10 ^ k := by positivity
    have hq : q < 0 := by
      by_contra hcon
      have := mul_nonneg hpow.le (not_lt.mp hcon)
      omega
    have habs : (10 ^ k * q).natAbs = 10 ^ k * q.natAbs := by
      rw [Int.natAbs_mul, Int.natAbs_pow]
      rfl
    rw [quotientText, fixedText, if_pos hneg, habs, Int.mul_tdiv_cancel_left _ hpow.ne',
      Int.mul_tmod_right, Nat.mul_div_cancel_left _ (by positivity), Nat.mul_mod_right, intText,
      if_pos hq]
    rfl
  · exact quotientText_of_nonneg hnonneg

/-- The remainder of a negative value that is not whole carries a sign into the fraction. -/
private theorem readColumn_quotientText_of_neg (hneg : v < 0) (h : ¬(10 : ℤ) ^ k ∣ v) :
    readColumn k (quotientText k v) = none := by
  have hmod : v.tmod (10 ^ k) < 0 := by
    have hle : v.tmod (10 ^ k) ≤ 0 := by
      have := Int.tmod_nonneg (10 ^ k) (show 0 ≤ -v by omega)
      rw [Int.neg_tmod] at this
      omega
    have hne : v.tmod (10 ^ k) ≠ 0 := fun h0 ↦ h (Int.dvd_of_tmod_eq_zero h0)
    omega
  have hsign : '-' ∈ (intText (v.tmod (10 ^ k))).leftpad k '0' := by
    rw [intText, if_pos hmod, List.leftpad]
    exact mem_append_right _ mem_cons_self
  have hpoint : '.' ∉ (intText (v.tmod (10 ^ k))).leftpad k '0' := by
    rw [intText, if_pos hmod, List.leftpad, mem_append, mem_cons, mem_replicate]
    rintro (⟨-, h⟩ | h | h)
    · exact absurd h (by decide)
    · exact absurd h (by decide)
    · exact not_mem_of_all_isDigit (all_isDigit_natText _) (by decide) h
  -- the sign of the quotient, if it has one, is taken off; the digits that are left have no point
  have hformat : ∀ n : ℕ, readFormat k
      (natText n ++ '.' :: (intText (v.tmod (10 ^ k))).leftpad k '0') = none := by
    intro n
    have hdigits : ¬((intText (v.tmod (10 ^ k))).leftpad k '0').all Char.isDigit = true :=
      fun hall ↦ not_mem_of_all_isDigit hall (by decide) hsign
    rw [readFormat, splitPoint_append
      (not_mem_of_all_isDigit (all_isDigit_natText n) (by decide)) hpoint]
    exact if_neg fun hall ↦ hdigits hall.2.2.1
  rw [quotientText, intText]
  split
  · rw [cons_append, readColumn, if_pos rfl, hformat]
    rfl
  · cases hwhole : natText (v.tdiv (10 ^ k)).natAbs with
    | nil => exact absurd hwhole (natText_ne_nil _)
    | cons c t =>
      have hc : c ≠ '-' := by
        rintro rfl
        have := isDigit_of_mem_natText (hwhole ▸ mem_cons_self : '-' ∈ natText _)
        revert this
        decide
      rw [cons_append, readColumn, if_neg hc, ← cons_append, ← hwhole]
      exact hformat _

/-- **Where the printer without a sign of its own is right**: on whole values and those not
negative. -/
theorem readColumn_quotientText (hk : 0 < k) (v : ℤ) :
    readColumn k (quotientText k v) = if 0 ≤ v ∨ (10 : ℤ) ^ k ∣ v then some v else none := by
  split
  case isTrue h =>
    have htext : quotientText k v = fixedText k v := by
      rcases h with h | h
      · exact quotientText_of_nonneg h
      · exact quotientText_of_dvd h
    rw [htext, readColumn_fixedText hk]
  case isFalse h =>
    rw [not_or, not_le] at h
    exact readColumn_quotientText_of_neg h.1 h.2

end Decimal
