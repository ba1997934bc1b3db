import UInventario.Foundations.DecimalGrammar
import UInventario.Foundations.Quanta
import UInventario.Inventory.QuantityPolicy

/-!
# Quantities as texts

`normalizeProductQuantity` takes a decimal text, rounds it in the steps of the product and gives a
text back. This module has the texts, their pattern and the refusals; on the numbers it is the
function of `UInventario.Inventory.QuantityPolicy` (`normalize_eq_ok`).

`Normalised` says what a caller may expect of an accepted quantity. Two parts of it fail on some.

* A quantity that is rounded to zero passes, however small it was: `"0.400"` in whole units becomes
  `"0.000"`. `LeavesSome` names the others.
* The pattern has twelve digits of a whole part, and rounding away from zero can carry into the
  thirteenth; the printed text is refused then. `StaysInPattern` names the others.

`normalised_iff` says that an accepted quantity is normalised exactly when it meets both.
-/

namespace UInventario

open Outcome Decimal Rounding

namespace QuantityTexts

/-! ### Texts and numbers -/

/-- `BadRequestException` with the body its callers give it. -/
structure BadRequestException where
  code : String
  minimumQuantity : Option (List Char) := none
  message : String
  deriving DecidableEq

def invalidPolicy (message : String := "La política de cantidades del producto no es válida.") :
    BadRequestException :=
  { code := "INVALID_PRODUCT_QUANTITY_POLICY", message }

def invalidQuantity (message : String) : BadRequestException :=
  { code := "INVALID_PRODUCT_QUANTITY", message }

def QUANTITY_PATTERN (value : List Char) : Bool :=
  isSigned 12 3 value

/-- `BigInt` of digits. -/
def BigInt (digits : List Char) : ℤ :=
  (Nat.ofDigitChars 10 digits 0 : ℕ)

def quantityToUnits (value : List Char) : Except BadRequestException ℤ := do
  ensure (QUANTITY_PATTERN value)
    (invalidQuantity "La cantidad debe tener como máximo 3 decimales.")
  let negative := value.head? = some '-'
  let unsigned := if negative then value.drop 1 else value
  let (whole, fraction) := splitPoint unsigned
  let units := BigInt whole * QUANTITY_SCALE + BigInt (fraction.rightpad 3 '0')
  pure (if negative then -units else units)

def quantityFromUnits (units : ℤ) : List Char :=
  let sign := if units < 0 then ['-'] else []
  let absolute := units.natAbs
  sign ++ natText (absolute / 1000) ++ '.' :: (natText (absolute % 1000)).leftpad 3 '0'

/-! ### Policies and quantities -/

/-- `ProductQuantityPolicy` as a request or a row has it. -/
structure ProductQuantityPolicy where
  baseUnit : ProductBaseUnit
  precision : ℤ
  rounding : QuantityRoundingMode
  minimumQuantity : List Char

def assertProductQuantityPolicy (policy : ProductQuantityPolicy) (trackSerials : Bool := false) :
    Except BadRequestException Unit := do
  ensure (¬(policy.precision < 0 ∨ 3 < policy.precision)) invalidPolicy
  let minimum ← quantityToUnits policy.minimumQuantity
  ensure (¬(minimum ≤ 0 ∨ roundUnits minimum policy.precision.toNat .DOWN ≠ minimum))
    (invalidPolicy "La cantidad mínima debe respetar la precisión configurada.")
  ensure (¬(trackSerials = true ∧
      (policy.baseUnit ≠ .UNIT ∨ policy.precision ≠ 0 ∨ minimum ≠ QUANTITY_SCALE)))
    (invalidPolicy
      "Los productos con series deben usar unidad, precisión 0 y cantidad mínima 1.")

/-- The options of `normalizeProductQuantity`. -/
structure Options where
  allowNegative : Bool := false
  enforceMinimum : Bool := true

def quantityBelowMinimum (minimum : ℤ) : BadRequestException :=
  { code := "PRODUCT_QUANTITY_BELOW_MINIMUM"
    minimumQuantity := some (quantityFromUnits minimum)
    message := "La cantidad mínima para este producto es " ++
      String.ofList (quantityFromUnits minimum) ++ "." }

def normalizeProductQuantity (value : List Char) (policy : ProductQuantityPolicy)
    (options : Options := {}) : Except BadRequestException (List Char) := do
  assertProductQuantityPolicy policy
  let original ← quantityToUnits value
  ensure (¬(options.allowNegative = false ∧ original < 0))
    (invalidQuantity "La cantidad no puede ser negativa.")
  let rounded := roundUnits original policy.precision.toNat policy.rounding
  let absolute := if rounded < 0 then -rounded else rounded
  let minimum ← quantityToUnits policy.minimumQuantity
  ensure (¬(options.enforceMinimum = true ∧ 0 < absolute ∧ absolute < minimum))
    (quantityBelowMinimum minimum)
  pure (quantityFromUnits rounded)

/-! ### Reading and printing -/

theorem quantityFromUnits_eq (units : ℤ) : quantityFromUnits units = fixedText 3 units := by
  rw [fixedText]
  rfl

variable {value : List Char} {units : ℤ}

/-- **What `quantityToUnits` accepts**: the texts of the pattern, for the number they stand for. -/
theorem quantityToUnits_eq_ok : quantityToUnits value = .ok units ↔
      QUANTITY_PATTERN value = true ∧ readSigned 3 value = some units := by
  have hparts : ∀ t : List Char, isUnsigned 12 3 t = true → readUnsigned 3 t =
      some (BigInt (splitPoint t).1 * QUANTITY_SCALE +
        BigInt ((splitPoint t).2.rightpad 3 '0')) := by
    intro t ht
    obtain ⟨hwhole, hfraction, -⟩ := parts_of_isUnsigned ht
    rw [readUnsigned, readInt_of_digits (all_isDigit_of_isWhole hwhole).1,
      readInt_of_digits (all_isDigit_rightpad hfraction)]
    rfl
  rw [quantityToUnits, bind_eq_ok]
  simp only [eq_ok, exists_and_left, exists_const]
  refine and_congr_right fun h ↦ ?_
  rw [← Option.some.injEq]
  refine Eq.congr_left ?_
  cases value with
  | nil => exact absurd h Bool.false_ne_true
  | cons c t =>
    rw [QUANTITY_PATTERN, isSigned] at h
    rw [readSigned]
    split at h
    case isTrue hc =>
      rw [if_pos hc, hparts t h, hc]
      rfl
    case isFalse hc =>
      have hhead : ¬(c :: t).head? = some '-' := fun heq ↦ hc (Option.some.inj heq)
      rw [if_neg hc, hparts (c :: t) h, if_neg hhead, if_neg hhead]

def amount (value : List Char) : ℤ :=
  (readSigned 3 value).getD 0

@[simp] theorem amount_quantityFromUnits (units : ℤ) :
    amount (quantityFromUnits units) = units := by
  rw [quantityFromUnits_eq, amount, readSigned_fixedText (by decide)]
  rfl

/-! ### Rounding -/

def quantum (policy : ProductQuantityPolicy) : ℤ :=
  10 ^ (3 - policy.precision.toNat)

def Carries (mode : QuantityRoundingMode) (q remainder : ℤ) : Prop :=
  match mode with
  | .UP => True
  | .HALF_UP => q ≤ remainder * 2
  | .DOWN => False

instance (mode : QuantityRoundingMode) (q : ℤ) : DecidablePred (Carries mode q) := fun remainder ↦
  match mode with
  | .UP => inferInstanceAs (Decidable True)
  | .HALF_UP => inferInstanceAs (Decidable (q ≤ remainder * 2))
  | .DOWN => inferInstanceAs (Decidable False)

theorem quantum_pos (policy : ProductQuantityPolicy) : 0 < quantum policy := by
  rw [quantum]
  positivity

theorem quantum_dvd (policy : ProductQuantityPolicy) : quantum policy ∣ 10 ^ 15 :=
  pow_dvd_pow 10 (by omega)

theorem roundUnits_eq_toQuantum (units : ℤ) (precision : ℕ) (mode : QuantityRoundingMode) :
    roundUnits units precision mode =
      toQuantum (Carries mode (10 ^ (3 - precision))) (10 ^ (3 - precision)) units := by
  have hincrement : ∀ remainder quantum : ℤ, roundingIncrement mode remainder quantum =
      if remainder ≠ 0 ∧ Carries mode quantum remainder then 1 else 0 := by
    intro remainder quantum
    rw [roundingIncrement.eq_def]
    by_cases h0 : remainder = 0
    · rw [if_pos h0, if_neg fun h ↦ h.1 h0]
    · rw [if_neg h0]
      simp only [ne_eq, h0, not_false_eq_true, true_and]
      cases mode <;> rfl
  rw [toQuantum, ← hincrement]
  rfl

def rounded (policy : ProductQuantityPolicy) (units : ℤ) : ℤ :=
  roundUnits units policy.precision.toNat policy.rounding

theorem rounded_eq (policy : ProductQuantityPolicy) (units : ℤ) : rounded policy units =
      toQuantum (Carries policy.rounding (quantum policy)) (quantum policy) units :=
  roundUnits_eq_toQuantum units _ _

theorem abs_rounded (policy : ProductQuantityPolicy) (units : ℤ) :
    |rounded policy units| = |units| - |units| % quantum policy +
      if |units| % quantum policy ≠ 0 ∧
        Carries policy.rounding (quantum policy) (|units| % quantum policy)
      then quantum policy else 0 := by
  rw [rounded_eq, abs_toQuantum (quantum_pos policy), toQuantum_of_nonneg (abs_nonneg units)]

/-! ### What is accepted -/

/-- A policy `assertProductQuantityPolicy` accepts. -/
structure ValidPolicy (policy : ProductQuantityPolicy) : Prop where
  precision : 0 ≤ policy.precision ∧ policy.precision ≤ 3
  minimum : QUANTITY_PATTERN policy.minimumQuantity = true
  positive : 0 < amount policy.minimumQuantity
  whole : roundUnits (amount policy.minimumQuantity) policy.precision.toNat .DOWN =
    amount policy.minimumQuantity

theorem quantityToUnits_eq_ok_iff :
    quantityToUnits value = .ok units ↔ QUANTITY_PATTERN value = true ∧ amount value = units := by
  rw [quantityToUnits_eq_ok]
  refine and_congr_right fun h ↦ ?_
  obtain ⟨v, hread, -⟩ := exists_readSigned_of_isSigned h
  rw [amount, hread, Option.some.injEq]
  rfl

variable {policy : ProductQuantityPolicy}

theorem assertProductQuantityPolicy_eq_ok :
    assertProductQuantityPolicy policy = .ok () ↔ ValidPolicy policy := by
  simp only [assertProductQuantityPolicy, eq_ok, quantityToUnits_eq_ok_iff]
  constructor
  · rintro ⟨-, hprecision, minimum, ⟨hpattern, rfl⟩, -, hminimum, -⟩
    rw [not_or, not_not] at hminimum
    exact ⟨by omega, hpattern, by omega, hminimum.2⟩
  · intro h
    have := h.precision
    have := h.positive
    exact ⟨⟨⟩, by omega, _, ⟨h.minimum, rfl⟩, ⟨⟩,
      by rw [not_or, not_not]; exact ⟨by omega, h.whole⟩,
      by simp⟩

variable {result : List Char} {options : Options}

/-- **What is accepted, and as what.** -/
theorem normalize_eq_ok : normalizeProductQuantity value policy options = .ok result ↔
      ValidPolicy policy ∧ QUANTITY_PATTERN value = true ∧
        (options.allowNegative = true ∨ 0 ≤ amount value) ∧
        (options.enforceMinimum = true → rounded policy (amount value) = 0 ∨
          amount policy.minimumQuantity ≤ |rounded policy (amount value)|) ∧
        result = quantityFromUnits (rounded policy (amount value)) := by
  have habs : ∀ r : ℤ, (if r < 0 then -r else r) = |r| := by
    intro r
    rcases lt_or_ge r 0 with hneg | hnonneg
    · rw [if_pos hneg, abs_of_neg hneg]
    · rw [if_neg (not_lt.mpr hnonneg), abs_of_nonneg hnonneg]
  simp only [normalizeProductQuantity, eq_ok, quantityToUnits_eq_ok_iff, habs]
  constructor
  · rintro ⟨⟨⟩, hpolicy, original, ⟨hpattern, rfl⟩, -, hsign, minimum, ⟨-, rfl⟩, -, hleast, rfl⟩
    refine ⟨assertProductQuantityPolicy_eq_ok.mp hpolicy, hpattern, ?_, fun henforce ↦ ?_, rfl⟩
    · cases hallow : options.allowNegative
      · exact .inr (not_lt.mp fun hneg ↦ hsign ⟨hallow, hneg⟩)
      · exact .inl rfl
    · by_contra hcon
      rw [not_or, not_le] at hcon
      exact hleast ⟨henforce, abs_pos.mpr hcon.1, hcon.2⟩
  · rintro ⟨hpolicy, hpattern, hsign, hleast, rfl⟩
    refine ⟨⟨⟩, assertProductQuantityPolicy_eq_ok.mpr hpolicy, _, ⟨hpattern, rfl⟩, ⟨⟩, ?_, _,
      ⟨hpolicy.minimum, rfl⟩, ⟨⟩, ?_, rfl⟩
    · rintro ⟨hallow, hneg⟩
      rcases hsign with hsign | hsign
      · rw [hallow] at hsign
        exact absurd hsign Bool.false_ne_true
      · exact absurd hneg (not_lt.mpr hsign)
    · rintro ⟨henforce, hpos, hlt⟩
      rcases hleast henforce with h0 | hle
      · exact absurd hpos (not_lt.mpr (abs_nonpos_iff.mpr h0))
      · exact absurd hlt (not_lt.mpr hle)

/-! ### What a caller may expect -/

/-- **A quantity as it should come out.** -/
structure Normalised (value : List Char) (policy : ProductQuantityPolicy) (options : Options)
    (result : List Char) : Prop where
  /-- A multiple of the step. -/
  multiple : quantum policy ∣ amount result
  near : |amount result - amount value| < quantum policy
  /-- At most half a step away for `HALF_UP`, and away from zero when it is half a step. -/
  nearest : policy.rounding = .HALF_UP → 2 * |amount result - amount value| ≤ quantum policy ∧
      (2 * |amount result - amount value| = quantum policy → |amount value| ≤ |amount result|)
  towardsZero : policy.rounding = .DOWN → |amount result| ≤ |amount value|
  awayFromZero : policy.rounding = .UP → |amount value| ≤ |amount result|
  sameSign : 0 ≤ amount value * amount result
  /-- It is accepted again, as it stands. -/
  again : normalizeProductQuantity result policy options = .ok result
  /-- The other quantity gives the other result. -/
  negated : normalizeProductQuantity (negateText value) policy
      { options with allowNegative := true } = .ok (quantityFromUnits (-amount result))
  /-- Only nothing becomes less than the least quantity. -/
  least : amount value ≠ 0 → amount policy.minimumQuantity ≤ |amount result|

def LeavesSome (policy : ProductQuantityPolicy) (units : ℤ) : Prop :=
  units = 0 ∨
    match policy.rounding with
    | .UP => True
    | .HALF_UP => quantum policy ≤ 2 * |units|
    | .DOWN => quantum policy ≤ |units|

/-- The numbers that are not carried past the twelve digits of a whole part. -/
def StaysInPattern (policy : ProductQuantityPolicy) (units : ℤ) : Prop :=
  match policy.rounding with
  | .UP => |units| ≤ 10 ^ 15 - quantum policy
  | .HALF_UP => 2 * |units| < 2 * 10 ^ 15 - quantum policy
  | .DOWN => True

theorem abs_amount_lt (h : QUANTITY_PATTERN value = true) :
    |amount value| < 10 ^ 15 := by
  obtain ⟨v, hread, hlt⟩ := exists_readSigned_of_isSigned h
  rw [amount, hread]
  exact hlt

theorem remainder_bounds (policy : ProductQuantityPolicy) (units : ℤ) :
    0 ≤ |units| % quantum policy ∧ |units| % quantum policy < quantum policy :=
  ⟨Int.emod_nonneg _ (quantum_pos policy).ne', Int.emod_lt_of_pos _ (quantum_pos policy)⟩

theorem rounded_of_dvd (h : quantum policy ∣ units) : rounded policy units = units := by
  rw [rounded_eq, toQuantum_of_dvd h]

theorem quantum_dvd_rounded (policy : ProductQuantityPolicy) (units : ℤ) :
    quantum policy ∣ rounded policy units := by
  rw [rounded_eq]
  exact dvd_toQuantum units

theorem rounded_neg (policy : ProductQuantityPolicy) (units : ℤ) :
    rounded policy (-units) = -rounded policy units := by
  rw [rounded_eq, rounded_eq, toQuantum_neg]

theorem abs_rounded_sub (policy : ProductQuantityPolicy) (units : ℤ) :
    |rounded policy units - units| = |(|rounded policy units| - (|units|))| := by
  rw [rounded_eq, abs_toQuantum (quantum_pos policy), abs_toQuantum_sub]

/-! ### Where the two parts fail -/

section Modes

variable {policy : ProductQuantityPolicy} (units : ℤ)

theorem abs_rounded_down (h : policy.rounding = .DOWN) :
    |rounded policy units| = |units| - |units| % quantum policy := by
  rw [abs_rounded, h]
  exact (congrArg _ (if_neg fun h ↦ h.2)).trans (add_zero _)

theorem abs_rounded_up (h : policy.rounding = .UP) :
    |rounded policy units| = |units| - |units| % quantum policy +
      if |units| % quantum policy ≠ 0 then quantum policy else 0 := by
  rw [abs_rounded, h]
  exact congrArg _ (if_congr (and_iff_left trivial) rfl rfl)

theorem abs_rounded_halfUp (h : policy.rounding = .HALF_UP) :
    |rounded policy units| = |units| - |units| % quantum policy +
      if quantum policy ≤ |units| % quantum policy * 2 then quantum policy else 0 := by
  have hpos := quantum_pos policy
  rw [abs_rounded, h]
  refine congrArg _ (if_congr (and_iff_right_of_imp fun hcarries ↦ ?_) rfl rfl)
  have : quantum policy ≤ |units| % quantum policy * 2 := hcarries
  omega

end Modes

/-- **Rounding leaves something** exactly of the numbers that `LeavesSome` names. -/
theorem rounded_ne_zero_iff (policy : ProductQuantityPolicy) (units : ℤ) :
    (units ≠ 0 → rounded policy units ≠ 0) ↔ LeavesSome policy units := by
  have hpos := quantum_pos policy
  have hrest := remainder_bounds policy units
  have hnonneg := abs_nonneg units
  have hsmall : |units| < quantum policy → |units| % quantum policy = |units| :=
    Int.emod_eq_of_lt hnonneg
  have hunits : units = 0 ↔ |units| = 0 := abs_eq_zero.symm
  have hresult : rounded policy units = 0 ↔ |rounded policy units| = 0 := abs_eq_zero.symm
  rw [LeavesSome, ne_eq, ne_eq, hunits, hresult]
  cases hmode : policy.rounding with
  | UP =>
    rw [abs_rounded_up units hmode]
    refine iff_of_true ?_ (.inr trivial)
    split <;> omega
  | HALF_UP =>
    rw [abs_rounded_halfUp units hmode]
    split <;> omega
  | DOWN =>
    rw [abs_rounded_down units hmode]
    omega

/-- **The result has the pattern** exactly for the numbers that `StaysInPattern` names. -/
theorem abs_rounded_lt_iff (hunits : |units| < 10 ^ 15) :
    |rounded policy units| < 10 ^ 15 ↔ StaysInPattern policy units := by
  have hpos := quantum_pos policy
  have hrest := remainder_bounds policy units
  -- both are multiples of the step, so the result is below the bound by a step
  have hstep : |rounded policy units| < 10 ^ 15 →
    |rounded policy units| + quantum policy ≤ 10 ^ 15 :=
    add_le_of_dvd_of_lt ((dvd_abs _ _).mpr (quantum_dvd_rounded policy units)) (quantum_dvd policy)
  rw [StaysInPattern]
  cases hmode : policy.rounding with
  | UP =>
    rw [abs_rounded_up units hmode] at hstep ⊢
    split at hstep <;> split <;> omega
  | HALF_UP =>
    rw [abs_rounded_halfUp units hmode] at hstep ⊢
    split at hstep <;> split <;> omega
  | DOWN =>
    rw [abs_rounded_down units hmode]
    exact iff_of_true (by omega) trivial

/-! ### The rest always holds -/

theorem nearest_of_halfUp (h : policy.rounding = .HALF_UP) (units : ℤ) :
    2 * |rounded policy units - units| ≤ quantum policy ∧
      (2 * |rounded policy units - units| = quantum policy → |units| ≤ |rounded policy units|) := by
  have hpos := quantum_pos policy
  have hrest := remainder_bounds policy units
  rw [abs_rounded_sub, abs_rounded_halfUp units h]
  split
  case isTrue hup =>
    rw [abs_of_nonneg (by omega)]
    omega
  case isFalse hdown =>
    rw [abs_of_nonpos (by omega)]
    omega

theorem le_abs_rounded_of_up (h : policy.rounding = .UP) (units : ℤ) :
    |units| ≤ |rounded policy units| := by
  have hrest := remainder_bounds policy units
  rw [abs_rounded_up units h]
  split <;> omega

theorem abs_rounded_le_of_down (h : policy.rounding = .DOWN) (units : ℤ) :
    |rounded policy units| ≤ |units| := by
  have hrest := remainder_bounds policy units
  rw [abs_rounded_down units h]
  omega

theorem rounded_sign (policy : ProductQuantityPolicy) (units : ℤ) :
    0 ≤ units * rounded policy units := by
  rw [rounded_eq]
  rcases le_total 0 units with hunits | hunits
  · exact mul_nonneg hunits (toQuantum_nonneg (quantum_pos policy) hunits)
  · exact mul_nonneg_of_nonpos_of_nonpos hunits (toQuantum_nonpos (quantum_pos policy) hunits)

theorem amount_negateText (h : QUANTITY_PATTERN value = true) :
    amount (negateText value) = -amount value := by
  obtain ⟨v, hread, -⟩ := exists_readSigned_of_isSigned h
  rw [amount, amount, (readSigned_negateText h).2, hread]
  rfl

/-- **The other quantity gives the other result.** -/
theorem normalize_negateText (h : normalizeProductQuantity value policy options = .ok result) :
    normalizeProductQuantity (negateText value) policy { options with allowNegative := true } =
      .ok (quantityFromUnits (-amount result)) := by
  obtain ⟨hpolicy, hpattern, -, hleast, rfl⟩ := normalize_eq_ok.mp h
  rw [normalize_eq_ok, amount_negateText hpattern, rounded_neg, abs_neg, neg_eq_zero,
    amount_quantityFromUnits]
  exact ⟨hpolicy, (readSigned_negateText hpattern).1, .inl rfl, hleast, rfl⟩

/-- **A result is accepted again** exactly when it has the pattern. -/
theorem normalize_again_iff (h : normalizeProductQuantity value policy options = .ok result) :
    normalizeProductQuantity result policy options = .ok result ↔
      StaysInPattern policy (amount value) := by
  obtain ⟨hpolicy, hpattern, hsign, hleast, rfl⟩ := normalize_eq_ok.mp h
  have hsame : rounded policy (rounded policy (amount value)) = rounded policy (amount value) :=
    rounded_of_dvd (quantum_dvd_rounded policy _)
  have hstays : QUANTITY_PATTERN (quantityFromUnits (rounded policy (amount value))) = true ↔
      StaysInPattern policy (amount value) := by
    rw [← abs_rounded_lt_iff (abs_amount_lt hpattern), quantityFromUnits_eq]
    exact isSigned_fixedText (by decide) (by decide) _
  have hnonneg : 0 ≤ amount value → 0 ≤ rounded policy (amount value) := by
    intro hamount
    rw [rounded_eq]
    exact toQuantum_nonneg (quantum_pos policy) hamount
  rw [normalize_eq_ok, amount_quantityFromUnits, hsame, hstays]
  constructor
  · rintro ⟨-, hpattern, -⟩
    exact hpattern
  · intro hpattern
    exact ⟨hpolicy, hpattern, hsign.imp_right hnonneg, hleast, rfl⟩

/-- **Only nothing becomes less than the least quantity** exactly when something is left. -/
theorem least_iff (henforce : options.enforceMinimum = true)
    (h : normalizeProductQuantity value policy options = .ok result) :
    (amount value ≠ 0 → amount policy.minimumQuantity ≤ |amount result|) ↔
      LeavesSome policy (amount value) := by
  obtain ⟨hpolicy, -, -, hleast, rfl⟩ := normalize_eq_ok.mp h
  rw [amount_quantityFromUnits, ← rounded_ne_zero_iff]
  refine imp_congr_right fun hvalue ↦ ⟨fun hle hzero ↦ ?_, fun hne ↦ ?_⟩
  · have hpositive := hpolicy.positive
    rw [hzero, abs_zero] at hle
    omega
  · exact (hleast henforce).resolve_left hne

/-- **When an accepted quantity is normalised**: something of it is left, and it is not carried past
the digits of a whole part. -/
theorem normalised_iff (henforce : options.enforceMinimum = true)
    (h : normalizeProductQuantity value policy options = .ok result) :
    Normalised value policy options result ↔
      LeavesSome policy (amount value) ∧ StaysInPattern policy (amount value) := by
  have hresult : amount result = rounded policy (amount value) := by
    obtain ⟨-, -, -, -, rfl⟩ := normalize_eq_ok.mp h
    exact amount_quantityFromUnits _
  constructor
  · intro hnormalised
    exact ⟨(least_iff henforce h).mp hnormalised.least,
      (normalize_again_iff h).mp hnormalised.again⟩
  · rintro ⟨hleaves, hstays⟩
    refine
      { multiple := ?_
        near := ?_
        nearest := ?_
        towardsZero := ?_
        awayFromZero := ?_
        sameSign := ?_
        again := (normalize_again_iff h).mpr hstays
        negated := normalize_negateText h
        least := (least_iff henforce h).mpr hleaves }
    · rw [hresult]
      exact quantum_dvd_rounded policy _
    · rw [hresult, rounded_eq]
      exact abs_toQuantum_sub_lt (quantum_pos policy) _
    · rw [hresult]
      exact fun hmode ↦ nearest_of_halfUp hmode _
    · rw [hresult]
      exact fun hmode ↦ abs_rounded_le_of_down hmode _
    · rw [hresult]
      exact fun hmode ↦ le_abs_rounded_of_up hmode _
    · rw [hresult]
      exact rounded_sign policy _

def wholeUnits (rounding : QuantityRoundingMode) : ProductQuantityPolicy where
  baseUnit := .UNIT
  precision := 0
  rounding := rounding
  minimumQuantity := "1.000".toList

theorem normalised_iff_wholeUnits :
    Normalised "1.500".toList (wholeUnits .HALF_UP) {} "2.000".toList ↔
      LeavesSome (wholeUnits .HALF_UP) (amount "1.500".toList) ∧
        StaysInPattern (wholeUnits .HALF_UP) (amount "1.500".toList) :=
  normalised_iff rfl (by decide +kernel)

/-- **Two quantities that are accepted and not normalised**, one too small and one too large. -/
theorem accepted_not_normalised :
    (normalizeProductQuantity "0.400".toList (wholeUnits .HALF_UP) {} = .ok "0.000".toList ∧
        ¬Normalised "0.400".toList (wholeUnits .HALF_UP) {} "0.000".toList) ∧
      (normalizeProductQuantity "999999999999.999".toList (wholeUnits .UP) {} =
          .ok "1000000000000.000".toList ∧
        ¬Normalised "999999999999.999".toList (wholeUnits .UP) {} "1000000000000.000".toList) := by
  refine ⟨⟨by decide +kernel, fun h ↦ ?_⟩, ⟨by decide +kernel, fun h ↦ ?_⟩⟩
  · exact absurd (h.least (by decide +kernel)) (by decide +kernel)
  · exact absurd h.again (by decide +kernel)

end QuantityTexts

end UInventario
