import UInventario.Foundations.Sums
import UInventario.Inventory.Schema
import UInventario.Reports.LocalDays
import Mathlib.Data.Rat.Floor
import Mathlib.Data.List.Dedup
import Mathlib.Tactic.FieldSimp

/-!
# Demand of a product

`DemandForecastRepository` adds up what has been sold and returned in the 56 days before a date, by
the hour of UTC, and counts an hour on the local day it begins in. `forecastDemand` takes a day with
more returned than sold for one without demand. Quantities are in thousandths.

* An hour begins on the local day of what has happened in it, unless that happened in the first
  minutes of a day, as many as the offset is off a whole hour (`localDate_hourOf_iff`).
* What counts on its own day adds up to the net demand exactly when on no day more has been returned
  than sold (`demand_counted_iff`).
-/

namespace UInventario.Reports

open List

/-! ### The rows -/

structure SoldLine where
  productId : Uuid
  quantity : ℕ
  completed : Bool
  createdAt : ℤ

structure ReturnedLine where
  productId : Uuid
  quantity : ℕ
  createdAt : ℤ

/-- What `activity` reads. -/
structure SalesHistory where
  /-- The active products, in the order of their names. -/
  products : List Uuid
  nodup : products.Nodup
  sold : List SoldLine
  returned : List ReturnedLine

/-- A row of `activity`: `activity_at` with its `quantity`. -/
structure ActivityRow where
  productId : Uuid
  activity : Option (ℤ × ℤ)

/-- `DATE_FORMAT(…, '%Y-%m-%d %H:00:00')`. -/
def hourOf (t : ℤ) : ℤ := t / HOUR * HOUR

/-- `SUM(quantity)`, grouped by the hour. -/
def byHour (lines : List (ℤ × ℤ)) : List (ℤ × ℤ) :=
  (lines.map fun l ↦ hourOf l.1).dedup.map fun hour ↦
    (hour, ((lines.filter fun l ↦ hourOf l.1 = hour).map Prod.snd).sum)

/-- The completed sales of a product that `keep` lets through. -/
def SalesHistory.soldOf (history : SalesHistory) (productId : Uuid) (keep : ℤ → Bool) :
    List (ℤ × ℤ) :=
  (history.sold.filter fun l ↦ l.productId = productId && l.completed && keep l.createdAt).map
    fun l ↦ (l.createdAt, l.quantity)

/-- The returns of a product that `keep` lets through. -/
def SalesHistory.returnedOf (history : SalesHistory) (productId : Uuid) (keep : ℤ → Bool) :
    List (ℤ × ℤ) :=
  (history.returned.filter fun l ↦ l.productId = productId && keep l.createdAt).map
    fun l ↦ (l.createdAt, l.quantity)

def SalesHistory.productRows (history : SalesHistory) (keep : ℤ → Bool) (productId : Uuid) :
    List ActivityRow :=
  let rows := byHour (history.soldOf productId keep) ++
    (byHour (history.returnedOf productId keep)).map fun row ↦ (row.1, -row.2)
  if rows = [] then [⟨productId, none⟩]
  else (rows.insertionSort fun a b ↦ a.1 ≤ b.1).map fun row ↦ ⟨productId, some row⟩

def SalesHistory.activity (history : SalesHistory) (zone : TimeZone) (asOfDate : ℤ) :
    List ActivityRow :=
  let historyStart := zone.localBoundary asOfDate (-56)
  let historyEnd := zone.localBoundary asOfDate 0
  history.products.flatMap
    (history.productRows fun t ↦ decide (historyStart ≤ t ∧ t < historyEnd))

/-! ### Observations -/

/-- `productDays.set(date, (productDays.get(date) ?? 0) + quantity)`. -/
def addDay (days : List (ℤ × ℤ)) (date quantity : ℤ) : List (ℤ × ℤ) :=
  match days with
  | [] => [(date, quantity)]
  | day :: days =>
    if day.1 = date then (date, day.2 + quantity) :: days else day :: addDay days date quantity

/-- `get(date) ?? 0`. -/
def quantityOn (days : List (ℤ × ℤ)) (date : ℤ) : ℤ :=
  ((days.find? fun day ↦ day.1 = date).map Prod.snd).getD 0

def observe (zone : TimeZone) (days : List (ℤ × ℤ)) (row : ActivityRow) : List (ℤ × ℤ) :=
  match row.activity with
  | none => days
  | some (activityAt, quantity) => addDay days (zone.localDate activityAt) quantity

structure DemandForecastProductInput where
  product : Uuid
  observations : List (ℤ × ℤ)

def products (zone : TimeZone) (rows : List ActivityRow) : List DemandForecastProductInput :=
  (rows.map ActivityRow.productId).eraseDups.map fun productId ↦ {
    product := productId
    observations := (rows.filter fun row ↦ row.productId = productId).foldl (observe zone) [] }

/-! ### The forecast -/

/-- `Number.EPSILON`. -/
def EPSILON : ℚ := 1 / 2 ^ 52

/-- `round`, to thousandths. -/
def round (value : ℚ) : ℚ := ⌊(value + EPSILON) * 1000 + 1 / 2⌋ / 1000

def HISTORY_DAYS : ℕ := 56

/-- `dateRange(asOfDate, -HISTORY_DAYS, -1)`. -/
def historyDates (asOfDate : ℤ) : List ℤ :=
  (List.range HISTORY_DAYS).map fun i : ℕ ↦ asOfDate - (HISTORY_DAYS : ℤ) + (i : ℤ)

/-- `values`. -/
def dailyValues (asOfDate : ℤ) (product : DemandForecastProductInput) : List ℤ :=
  (historyDates asOfDate).map fun date ↦ max 0 (quantityOn product.observations date)

structure DemandForecastItem where
  product : Uuid
  coverageDays : ℕ
  daysWithDemand : ℕ
  totalDemand : ℚ
  sufficient : Bool

def forecastDemand (asOfDate : ℤ) (product : DemandForecastProductInput) : DemandForecastItem :=
  let values := dailyValues asOfDate product
  let coverageDays := ((values.findIdx? fun value ↦ 0 < value).map (HISTORY_DAYS - ·)).getD 0
  let daysWithDemand := (values.filter fun value ↦ 0 < value).length
  let totalDemand := round (values.sum / 1000)
  { product := product.product
    coverageDays := coverageDays
    daysWithDemand := daysWithDemand
    totalDemand := totalDemand
    sufficient := decide (42 ≤ coverageDays ∧ 12 ≤ daysWithDemand ∧ 20 ≤ totalDemand) }

/-- The items of `generate`. -/
def SalesHistory.items (history : SalesHistory) (zone : TimeZone) (asOfDate : ℤ) :
    List DemandForecastItem :=
  (Reports.products zone (history.activity zone asOfDate)).map (forecastDemand asOfDate)

/-! ### Hours and days -/

variable {zone : TimeZone} {offset : ℤ} {history : SalesHistory} {asOfDate : ℤ} {productId : Uuid}

/-- **An hour begins on the local day** of its moments, unless they are among the first of their
day. -/
theorem localDate_hourOf_iff (hfixed : ∀ t, zone.offset t = offset) (t : ℤ) :
    zone.localDate (hourOf t) = zone.localDate t ↔ offset % HOUR ≤ (t + offset) % DAY := by
  rw [TimeZone.localDate, TimeZone.localDate, TimeZone.clock, TimeZone.clock, hfixed, hfixed,
    hourOf,
    HOUR, DAY]
  omega

theorem mem_history_iff (hfixed : ∀ t, zone.offset t = offset) (hseconds : 1000 ∣ offset)
    (asOfDate t : ℤ) :
    zone.localBoundary asOfDate (-56) ≤ t ∧ t < zone.localBoundary asOfDate 0 ↔
      zone.localDate t ∈ historyDates asOfDate := by
  have hwhole : ∀ u, zone.seconds u = offset := fun u ↦ by
    rw [TimeZone.seconds, hfixed, Int.ediv_mul_cancel hseconds]
  have hmem : ∀ date, date ∈ historyDates asOfDate ↔ asOfDate - 56 ≤ date ∧ date < asOfDate := by
    intro date
    rw [historyDates, mem_map]
    constructor
    · rintro ⟨i, hi, rfl⟩
      rw [mem_range, HISTORY_DAYS] at hi
      rw [HISTORY_DAYS]
      omega
    · rintro ⟨hfrom, huntil⟩
      refine ⟨(date - (asOfDate - 56)).toNat, mem_range.mpr ?_, ?_⟩
      · rw [HISTORY_DAYS]
        omega
      · rw [HISTORY_DAYS]
        omega
  rw [hmem, TimeZone.localBoundary_eq, TimeZone.localBoundary_eq, hwhole, hwhole,
    TimeZone.localDate,
    TimeZone.clock, hfixed, DAY]
  omega

/-! ### What is counted on a day -/

/-- The sales and returns of a product in the history, with what each adds to the demand. -/
def SalesHistory.events (history : SalesHistory) (zone : TimeZone) (asOfDate : ℤ)
    (productId : Uuid) : List (ℤ × ℤ) :=
  let keep := fun t ↦ decide (zone.localDate t ∈ historyDates asOfDate)
  history.soldOf productId keep ++ (history.returnedOf productId keep).map fun l ↦ (l.1, -l.2)

/-- What events that `on` lets through add to the demand. -/
def demand (events : List (ℤ × ℤ)) (on : ℤ → Prop) [DecidablePred on] : ℤ :=
  (events.map fun e ↦ if on e.1 then e.2 else 0).sum

/-- **A group adds up** to what is in it, whatever is asked of its hour. -/
theorem demand_byHour (lines : List (ℤ × ℤ)) (on : ℤ → Prop) [DecidablePred on] :
    demand (byHour lines) on = demand lines fun t ↦ on (hourOf t) := by
  rw [demand, byHour, map_map]
  have hgroup : ∀ hour, (if on hour then
      ((lines.filter fun l ↦ hourOf l.1 = hour).map Prod.snd).sum else 0) =
      (lines.map fun l ↦ if hour = hourOf l.1 then (if on hour then l.2 else 0) else 0).sum := by
    intro hour
    rw [Sums.sum_filter]
    split
    · simp only [decide_eq_true_eq, eq_comm (a := hour)]
    · simp
  calc _ = ((lines.map fun l ↦ hourOf l.1).dedup.map fun hour ↦ (lines.map fun l ↦
        if hour = hourOf l.1 then (if on hour then l.2 else 0) else 0).sum).sum :=
        congrArg List.sum (map_congr_left fun hour _ ↦ hgroup hour)
    _ = (lines.map fun l ↦ ((lines.map fun l ↦ hourOf l.1).dedup.map fun hour ↦
        if hour = hourOf l.1 then (if on hour then l.2 else 0) else 0).sum).sum :=
        Sums.sum_comm _ _ _
    _ = _ := by
        refine congrArg List.sum (map_congr_left fun l hl ↦ ?_)
        exact Sums.sum_key_eq id (fun hour ↦ if on hour then l.2 else 0)
          (by rw [map_id]; exact nodup_dedup _)
          (mem_dedup.mpr (mem_map_of_mem hl))

theorem demand_neg (lines : List (ℤ × ℤ)) (on : ℤ → Prop) [DecidablePred on] :
    demand (lines.map fun l ↦ (l.1, -l.2)) on = -demand lines on := by
  induction lines with
  | nil => rfl
  | cons l lines ih =>
    rw [demand, map_cons, map_cons, sum_cons, demand, map_cons, sum_cons,
      neg_add, ← demand, ← demand, ih]
    split <;> simp

theorem quantityOn_cons (day : ℤ × ℤ) (days : List (ℤ × ℤ)) (d : ℤ) :
    quantityOn (day :: days) d = if day.1 = d then day.2 else quantityOn days d := by
  rw [quantityOn, find?_cons]
  by_cases h : day.1 = d
  · rw [decide_eq_true h, if_pos h]
    rfl
  · rw [decide_eq_false h, if_neg h]
    rfl

theorem quantityOn_addDay (days : List (ℤ × ℤ)) (date quantity d : ℤ) :
    quantityOn (addDay days date quantity) d =
      quantityOn days d + if date = d then quantity else 0 := by
  induction days with
  | nil => rw [addDay, quantityOn_cons, show quantityOn [] d = 0 from rfl, zero_add]
  | cons day days ih =>
    rw [addDay]
    split
    case isTrue hday =>
      subst hday
      rw [quantityOn_cons, quantityOn_cons]
      split
      · rfl
      · rw [add_zero]
    case isFalse hday =>
      rw [quantityOn_cons, quantityOn_cons, ih]
      split
      · rename_i hd
        rw [if_neg fun h ↦ hday (hd.trans h.symm), add_zero]
      · rfl

theorem quantityOn_observe (rows : List ActivityRow) (d : ℤ) : ∀ days : List (ℤ × ℤ),
    quantityOn (rows.foldl (observe zone) days) d = quantityOn days d +
      demand (rows.filterMap ActivityRow.activity) fun t ↦ zone.localDate t = d := by
  induction rows with
  | nil => exact fun _ ↦ (add_zero _).symm
  | cons row rows ih =>
    intro days
    rw [foldl_cons, ih, observe]
    cases hrow : row.activity with
    | none => rw [filterMap_cons_none hrow]
    | some activity =>
      rw [filterMap_cons_some hrow, quantityOn_addDay, demand, demand, map_cons, sum_cons,
        add_assoc]

theorem filter_productRows (keep : ℤ → Bool) : ∀ {l : List Uuid}, l.Nodup → productId ∈ l →
    (l.flatMap (history.productRows keep)).filter (fun row ↦ row.productId = productId) =
      history.productRows keep productId := by
  have hown : ∀ q, ∀ row ∈ history.productRows keep q, row.productId = q := by
    intro q row hrow
    simp only [SalesHistory.productRows] at hrow
    split at hrow
    · rw [mem_singleton.mp hrow]
    · obtain ⟨_, -, rfl⟩ := mem_map.mp hrow
      rfl
  intro l
  induction l with
  | nil => exact fun _ h ↦ absurd h not_mem_nil
  | cons q l ih =>
    intro hnodup hp
    obtain ⟨hnotin, hnodup⟩ := nodup_cons.mp hnodup
    rw [flatMap_cons, filter_append]
    rcases mem_cons.mp hp with rfl | hp
    · rw [filter_eq_self.mpr fun row hrow ↦ decide_eq_true (hown _ row hrow),
        filter_eq_nil_iff.mpr, append_nil]
      intro row hrow
      obtain ⟨r, hr, hrow⟩ := mem_flatMap.mp hrow
      rw [hown r row hrow, decide_eq_true_eq]
      rintro rfl
      exact hnotin hr
    · rw [ih hnodup hp, filter_eq_nil_iff.mpr, nil_append]
      intro row hrow
      rw [hown q row hrow, decide_eq_true_eq]
      rintro rfl
      exact hnotin hp

theorem demand_productRows (keep : ℤ → Bool) (on : ℤ → Prop) [DecidablePred on] :
    demand ((history.productRows keep productId).filterMap ActivityRow.activity) on =
      demand (history.soldOf productId keep ++
        (history.returnedOf productId keep).map fun l ↦ (l.1, -l.2)) fun t ↦ on (hourOf t) := by
  have happend : ∀ (on : ℤ → Prop) [DecidablePred on] (l m : List (ℤ × ℤ)),
      demand (l ++ m) on = demand l on + demand m on := fun on _ l m ↦ by
    rw [demand, map_append, sum_append]
    rfl
  have hgroups : demand (byHour (history.soldOf productId keep) ++
      (byHour (history.returnedOf productId keep)).map fun row ↦ (row.1, -row.2)) on =
      demand (history.soldOf productId keep ++
        (history.returnedOf productId keep).map fun l ↦ (l.1, -l.2)) fun t ↦ on (hourOf t) := by
    rw [happend, happend, demand_neg, demand_neg, demand_byHour, demand_byHour]
  rw [← hgroups, SalesHistory.productRows]
  split
  · rename_i hnone
    rw [hnone]
    rfl
  · rw [filterMap_map]
    show demand (filterMap some _) on = _
    rw [filterMap_some]
    exact ((perm_insertionSort _ _).map _).sum_eq

/-! ### The demand of the history -/

/-- The net demand of a product: what has been sold less what has been returned. -/
def SalesHistory.netDemand (history : SalesHistory) (zone : TimeZone) (asOfDate : ℤ)
    (productId : Uuid) : ℤ :=
  ((history.events zone asOfDate productId).map Prod.snd).sum

/-- **The forecast counts the demand**, each day on its own, and in total what is not returned. -/
structure DemandCounted (history : SalesHistory) (zone : TimeZone) (asOfDate : ℤ)
    (productId : Uuid) : Prop where
  counted : ∀ e ∈ history.events zone asOfDate productId,
    zone.localDate (hourOf e.1) = zone.localDate e.1
  total : 0 ≤ history.netDemand zone asOfDate productId →
    ∀ item ∈ history.items zone asOfDate, item.product = productId →
      item.totalDemand = history.netDemand zone asOfDate productId / 1000

theorem round_thousandths (n : ℤ) : round (n / 1000) = n / 1000 := by
  have hfloor : ⌊((n : ℚ) / 1000 + EPSILON) * 1000 + 1 / 2⌋ = n := by
    rw [Int.floor_eq_iff, EPSILON]
    constructor <;> ring_nf <;> linarith
  rw [round, hfloor]

theorem sum_max_eq_iff (f : ℤ → ℤ) (l : List ℤ) :
    (l.map fun d ↦ max 0 (f d)).sum = (l.map f).sum ↔ ∀ d ∈ l, 0 ≤ f d := by
  have hle : ∀ l : List ℤ, (l.map f).sum ≤ (l.map fun d ↦ max 0 (f d)).sum := fun l ↦
    sum_le_sum fun d _ ↦ le_max_right _ _
  induction l with
  | nil => exact iff_of_true rfl (forall_mem_nil _)
  | cons d l ih =>
    rw [map_cons, map_cons, sum_cons, sum_cons, forall_mem_cons]
    refine Iff.trans ?_ (and_congr_right fun _ ↦ ih)
    have := hle l
    omega

theorem sum_demand {events : List (ℤ × ℤ)} (date : ℤ → ℤ) (dates : List ℤ) (hnodup : dates.Nodup)
    (h : ∀ e ∈ events, date e.1 ∈ dates) :
    (dates.map fun d ↦ demand events fun t ↦ date t = d).sum = (events.map Prod.snd).sum := by
  calc _ = (events.map fun e ↦ (dates.map fun d ↦ if d = date e.1 then e.2 else 0).sum).sum := by
        rw [← Sums.sum_comm]
        simp only [demand, eq_comm]
    _ = _ := by
        refine congrArg List.sum (map_congr_left fun e he ↦ ?_)
        exact Sums.sum_key_eq id (fun _ ↦ e.2) (by rwa [map_id]) (h e he)

theorem nodup_historyDates (asOfDate : ℤ) : (historyDates asOfDate).Nodup :=
  nodup_range.map fun i j h ↦ by omega

/-- **The values of a product** are what its events add on the days their hours begin in. -/
theorem dailyValues_eq (hfixed : ∀ t, zone.offset t = offset) (hseconds : 1000 ∣ offset)
    (hp : productId ∈ history.products) {input : DemandForecastProductInput}
    (hinput : input ∈ products zone (history.activity zone asOfDate))
    (hproduct : input.product = productId) :
    dailyValues asOfDate input = (historyDates asOfDate).map fun d ↦ max 0
      (demand (history.events zone asOfDate productId) fun t ↦ zone.localDate (hourOf t) = d) := by
  obtain ⟨_, -, rfl⟩ := mem_map.mp hinput
  subst hproduct
  refine map_congr_left fun d _ ↦ congrArg (max 0) ?_
  rw [SalesHistory.activity, filter_productRows _ history.nodup hp, quantityOn_observe,
    demand_productRows, show quantityOn [] d = 0 from rfl, zero_add, SalesHistory.events]
  simp only [mem_history_iff hfixed hseconds]

theorem exists_input (zone : TimeZone) (asOfDate : ℤ) (hp : productId ∈ history.products) :
    ∃ input ∈ products zone (history.activity zone asOfDate), input.product = productId := by
  have hrows : ∀ keep, ∃ row ∈ history.productRows keep productId, row.productId = productId := by
    intro keep
    rw [SalesHistory.productRows]
    split
    · exact ⟨_, mem_singleton_self _, rfl⟩
    · rename_i hsome
      obtain ⟨r, hr⟩ := exists_mem_of_ne_nil _ hsome
      exact ⟨_, mem_map_of_mem ((perm_insertionSort _ _).mem_iff.mpr hr), rfl⟩
  obtain ⟨row, hrow, heq⟩ := hrows _
  exact ⟨_, mem_map_of_mem (mem_eraseDups.mpr (mem_map_of_mem
    (mem_flatMap.mpr ⟨productId, hp, hrow⟩))), heq⟩

/-- **Demand that is counted**: nothing happens in the first minutes of a local day, and no day has
more returned than sold unless the net demand is negative. -/
theorem demand_counted_iff (hfixed : ∀ t, zone.offset t = offset) (hquarter : 900000 ∣ offset)
    (history : SalesHistory) (asOfDate : ℤ) (hp : productId ∈ history.products) :
    DemandCounted history zone asOfDate productId ↔
      (∀ e ∈ history.events zone asOfDate productId, offset % HOUR ≤ (e.1 + offset) % DAY) ∧
      (0 ≤ history.netDemand zone asOfDate productId → ∀ date,
        0 ≤ demand (history.events zone asOfDate productId) fun t ↦ zone.localDate t = date) := by
  have hhours := localDate_hourOf_iff hfixed
  have hdate : ∀ e ∈ history.events zone asOfDate productId,
      zone.localDate e.1 ∈ historyDates asOfDate := by
    intro e he
    rcases mem_append.mp he with he | he
    · obtain ⟨l, hl, rfl⟩ := mem_map.mp he
      exact of_decide_eq_true (Bool.and_eq_true_iff.mp (mem_filter.mp hl).2).2
    · obtain ⟨r, hr, rfl⟩ := mem_map.mp he
      obtain ⟨l, hl, rfl⟩ := mem_map.mp hr
      exact of_decide_eq_true (Bool.and_eq_true_iff.mp (mem_filter.mp hl).2).2
  have hnet : ((historyDates asOfDate).map fun d ↦ demand (history.events zone asOfDate productId)
      fun t ↦ zone.localDate t = d).sum = history.netDemand zone asOfDate productId :=
    sum_demand zone.localDate _ (nodup_historyDates asOfDate) hdate
  -- what is counted on its own day is announced exactly when no day is cut off at zero
  have htotal : (∀ e ∈ history.events zone asOfDate productId,
      zone.localDate (hourOf e.1) = zone.localDate e.1) → ∀ input,
      input ∈ products zone (history.activity zone asOfDate) → input.product = productId →
      ((forecastDemand asOfDate input).totalDemand =
          history.netDemand zone asOfDate productId / 1000 ↔
        ∀ d ∈ historyDates asOfDate, 0 ≤ demand (history.events zone asOfDate productId)
          fun t ↦ zone.localDate t = d) := by
    intro hcounted input hinput hproduct
    have hdays : ∀ d, demand (history.events zone asOfDate productId)
        (fun t ↦ zone.localDate (hourOf t) = d) =
        demand (history.events zone asOfDate productId) fun t ↦ zone.localDate t = d := fun d ↦
      congrArg List.sum (map_congr_left fun e he ↦
        if_congr (iff_of_eq (congrArg (· = d) (hcounted e he))) rfl rfl)
    show round ((dailyValues asOfDate input).sum / 1000) = _ ↔ _
    rw [dailyValues_eq hfixed (Dvd.dvd.trans (by decide) hquarter) hp hinput hproduct,
      round_thousandths, ← sum_max_eq_iff, hnet]
    simp only [hdays]
    rw [div_left_inj' (by norm_num), Int.cast_inj]
  constructor
  · rintro ⟨hcounted, hannounced⟩
    refine ⟨fun e he ↦ (hhours e.1).mp (hcounted e he), fun hnonneg date ↦ ?_⟩
    by_cases hin : date ∈ historyDates asOfDate
    · obtain ⟨input, hinput, hproduct⟩ := exists_input zone asOfDate hp
      exact (htotal hcounted input hinput hproduct).mp
        (hannounced hnonneg _ (mem_map_of_mem hinput) hproduct) date hin
    · refine sum_nonneg fun x hx ↦ ?_
      obtain ⟨e, he, rfl⟩ := mem_map.mp hx
      rw [if_neg]
      rintro rfl
      exact hin (hdate e he)
  · rintro ⟨hlate, hdays⟩
    have hcounted := fun e he ↦ (hhours e.1).mpr (hlate e he)
    refine ⟨hcounted, fun hnonneg item hitem hproduct ↦ ?_⟩
    obtain ⟨input, hinput, rfl⟩ := mem_map.mp hitem
    exact (htotal hcounted input hinput hproduct).mpr fun d _ ↦ hdays hnonneg d

/-! ### A return on another day -/

def utc : TimeZone where
  offset _ := 0
  least _ := by decide
  greatest _ := by decide
  gradual _ := by decide

/-- Ten units are sold on the first day of 1970 and four are returned on the next. -/
def returnedNextDay : SalesHistory where
  products := [1]
  nodup := nodup_singleton 1
  sold := [{ productId := 1, quantity := 10000, completed := true, createdAt := 12 * HOUR }]
  returned := [{ productId := 1, quantity := 4000, createdAt := DAY + 12 * HOUR }]

theorem return_not_counted : ¬∀ (zone : TimeZone) (offset : ℤ), (∀ t, zone.offset t = offset) →
    900000 ∣ offset → ∀ (history : SalesHistory) (asOfDate : ℤ), ∀ productId ∈ history.products,
      DemandCounted history zone asOfDate productId := by
  intro h
  have hcounted := h utc 0 (fun _ ↦ rfl) (by decide) returnedNextDay 56 1 mem_cons_self
  have hitem : ∃ item ∈ returnedNextDay.items utc 56, item.product = 1 ∧ item.totalDemand = 10 := by
    decide +kernel
  obtain ⟨item, hitem, hproduct, hten⟩ := hitem
  have hsix := hcounted.total (by decide +kernel) item hitem hproduct
  rw [hten] at hsix
  exact absurd hsix (by decide +kernel)

theorem demand_counted_iff_utc : DemandCounted returnedNextDay utc 56 1 ↔
    (∀ e ∈ returnedNextDay.events utc 56 1, 0 % HOUR ≤ (e.1 + 0) % DAY) ∧
    (0 ≤ returnedNextDay.netDemand utc 56 1 → ∀ date,
      0 ≤ demand (returnedNextDay.events utc 56 1) fun t ↦ utc.localDate t = date) :=
  demand_counted_iff (fun _ ↦ rfl) (by decide) returnedNextDay 56 mem_cons_self

end UInventario.Reports
