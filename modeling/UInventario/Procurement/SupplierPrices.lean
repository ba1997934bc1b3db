import UInventario.Foundations.Outcome
import UInventario.Foundations.Table
import UInventario.Inventory.Schema
import UInventario.Inventory.ValuationPolicyService

/-!
# The prices of a supplier's product

`SupplierProductRepository`: a link of a supplier with a product has price periods, of which an
update ends the latest and begins another one. The periods are to be disjoint (`Timeline`), and a
request that is refused is to be refused by the source and not by a constraint (`Declared`).

A start is compared with the latest one as a text, `YYYY-MM-DD` with whatever the request has: a
text in the basic form, or with a time, is greater than others of its date, and of later ones. The
database compares the end of the latest period with the start as it reads it, time included. `Meets`
says of a request that these comparisons come to what the dates say; `supplier_prices_timeline` is
the result for runs, and `spellings` has a price that overlaps the one before it, and one that
violates `ck_supplier_product_prices_dates`.

Amounts are in cents and dates are numbers of days. A price is found by its start, which is a key;
names, the minimum quantity and the checks that the patterns of the request imply are left out.
-/

namespace UInventario.Suppliers

open Outcome Table List

/-! ### The rows -/

/-- A text as the database reads it: the date that a `DATE` column keeps, and whether there is a
time past midnight. -/
structure Moment where
  day : ℤ
  late : Bool
  deriving DecidableEq

/-- How the database reads a text, if it does, `dateOnly` of a date, `normalize` of a code, and the
comparison key of a column. -/
structure SupplierEnv where
  read : Text → Option Moment
  dateOnly : ℤ → Text
  (normalize collate : Text → Text)

/-- A row of `supplier_product_prices`. -/
structure Price where
  currency : Text
  unitCost : ℕ
  validFrom : ℤ
  validTo : Option ℤ
  deriving DecidableEq

/-- A row of `supplier_products` with its prices, the last one first. -/
structure Link where
  (id supplierId productId : Uuid)
  (supplierCode normalizedSupplierCode : Text)
  version : ℕ
  prices : List Price
  deriving DecidableEq

instance : Keyed Link Uuid := ⟨Link.id⟩

/-- The links, and which suppliers and products can be linked. -/
structure SupplierStore where
  (suppliers products : List Uuid)
  links : Table Link

structure SupplierProductDto where
  (supplierId productId : Uuid)
  (supplierCode currency : Text)
  unitCost : ℕ
  validFrom : Text
  validTo : Option Text

inductive SupplierRequest
  /-- `create`, with the identifier it draws. -/
  | create (id : Uuid) (dto : SupplierProductDto)
  | update (id : Uuid) (version : ℕ) (dto : SupplierProductDto)
  /-- The rest of the application changes what can be linked. -/
  | elsewhere (suppliers products : List Uuid)

inductive SupplierConflict
  | RELATION | SUPPLIER_CODE | PRICE_DATE

inductive DatabaseError
  | checkViolated | dataTooLong | duplicateEntry | incorrectDate

inductive SupplierFailure
  | INVALID_SUPPLIER_PRICE_VALIDITY
  | INVALID_SUPPLIER
  | INVALID_PRODUCT
  | notFound
  | versionConflict (currentVersion : ℕ)
  | conflict (code : SupplierConflict)
  | database (error : DatabaseError)

/-! ### The requests -/

variable (env : SupplierEnv)

/-- `dto.validTo && dto.validTo < dto.validFrom`, of texts. -/
def SupplierProductDto.EndsBefore (dto : SupplierProductDto) : Prop :=
  ∃ t ∈ dto.validTo, t < dto.validFrom
deriving Decidable

/-- The price that a request asks for, as its columns keep it. -/
def SupplierProductDto.price (dto : SupplierProductDto) : Option Price := do
  let start ← env.read dto.validFrom
  let last ← dto.validTo.mapM env.read
  pure {
    currency := dto.currency, unitCost := dto.unitCost, validFrom := start.day,
    validTo := last.map Moment.day }

/-- `ck_supplier_product_prices_dates`. -/
def Price.Dated (p : Price) : Prop := ∀ e ∈ p.validTo, p.validFrom ≤ e
deriving Decidable

/-- `insertPrice`. -/
def insertPrice (prices : List Price) (dto : SupplierProductDto) :
    Except SupplierFailure (List Price) := do
  let price ← demand (dto.price env) (.database .incorrectDate)
  ensure price.Dated (.database .checkViolated)
  -- `uq_supplier_product_prices_date`
  ensure (∀ p ∈ prices, p.validFrom ≠ price.validFrom) (.conflict .PRICE_DATE)
  pure (price :: prices)

/-- The columns of the code, and `uq_supplier_products_supplier_code`. -/
def checkCode (s : SupplierStore) (id : Uuid) (dto : SupplierProductDto) :
    Except SupplierFailure PUnit := do
  ensure (characters (env.normalize dto.supplierCode) ≤ 64) (.database .dataTooLong)
  ensure (∀ l ∈ s.links.rows, l.id ≠ id → ¬(l.supplierId = dto.supplierId ∧
    env.collate l.normalizedSupplierCode = env.collate (env.normalize dto.supplierCode)))
    (.conflict .SUPPLIER_CODE)

def create (s : SupplierStore) (id : Uuid) (dto : SupplierProductDto) :
    Except SupplierFailure SupplierStore := do
  ensure (¬dto.EndsBefore) .INVALID_SUPPLIER_PRICE_VALIDITY
  ensure (dto.supplierId ∈ s.suppliers) .INVALID_SUPPLIER
  ensure (dto.productId ∈ s.products) .INVALID_PRODUCT
  ensure (∀ l ∈ s.links.rows, ¬(l.supplierId = dto.supplierId ∧ l.productId = dto.productId))
    (.conflict .RELATION)
  checkCode env s id dto
  let prices ← insertPrice env [] dto
  let links ← demand (s.links.insert {
    id := id, supplierId := dto.supplierId, productId := dto.productId,
    supplierCode := dto.supplierCode, normalizedSupplierCode := env.normalize dto.supplierCode,
    version := 1, prices := prices }) (.database .duplicateEntry)
  pure { s with links := links }

/-- `prices[0]`, `ORDER BY valid_from DESC`. -/
def latestPrice (prices : List Price) : Option Price :=
  (orderBy (fun a b ↦ b.validFrom ≤ a.validFrom) prices).head?

/-- `valid_to >= ?` for a date and a text that is read as a moment. -/
def Moment.AtMost (m : Moment) (date : ℤ) : Prop := m.day < date ∨ m.day = date ∧ m.late = false
deriving Decidable

/-- `SET valid_to = CASE … END`: the period ends on the day before the start of the next. -/
def Price.cut (p : Price) (m : Moment) : Price :=
  if ∀ e ∈ p.validTo, m.AtMost e then { p with validTo := some (m.day - 1) } else p

def cutLatest (prices : List Price) (latest : Price) (m : Moment) : List Price :=
  prices.map fun p ↦ if p.validFrom = latest.validFrom then p.cut m else p

def update (s : SupplierStore) (id : Uuid) (version : ℕ) (dto : SupplierProductDto) :
    Except SupplierFailure SupplierStore := do
  ensure (¬dto.EndsBefore) .INVALID_SUPPLIER_PRICE_VALIDITY
  let current ← demand (s.links.find? id) .notFound
  ensure (current.version = version) (.versionConflict current.version)
  ensure (current.supplierId = dto.supplierId ∧ current.productId = dto.productId)
    (.conflict .RELATION)
  let latest ← demand (latestPrice current.prices) (.conflict .PRICE_DATE)
  ensure (env.dateOnly latest.validFrom < dto.validFrom) (.conflict .PRICE_DATE)
  checkCode env s id dto
  let start ← demand (env.read dto.validFrom) (.database .incorrectDate)
  ensure (latest.cut start).Dated (.database .checkViolated)
  let prices ← insertPrice env (cutLatest current.prices latest start) dto
  pure { s with links := s.links.update id (fun l ↦ { l with
    supplierCode := dto.supplierCode, normalizedSupplierCode := env.normalize dto.supplierCode,
    version := l.version + 1, prices := prices }) fun _ ↦ rfl }

def step (s : SupplierStore) : SupplierRequest → Except SupplierFailure SupplierStore
  | .create id dto => create env s id dto
  | .update id version dto => update env s id version dto
  | .elsewhere suppliers products =>
    .ok { s with suppliers := suppliers, products := products }

/-! ### Timelines -/

def Price.Covers (p : Price) (date : ℤ) : Prop := p.validFrom ≤ date ∧ ∀ e ∈ p.validTo, date ≤ e
deriving Decidable

/-- **The periods are disjoint**, each with its start not after its end, the last one first. -/
structure Timeline (prices : List Price) : Prop where
  dated : ∀ p ∈ prices, p.Dated
  apart : prices.Pairwise fun later earlier ↦ ∃ e ∈ earlier.validTo, e < later.validFrom

/-- **The price of a date**: currency and cost. -/
def priceOn (prices : List Price) (date : ℤ) : Option (Text × ℕ) :=
  (prices.find? fun p ↦ p.Covers date).map fun p ↦ (p.currency, p.unitCost)

variable {p latest : Price} {prices prices' : List Price} {m : Moment} {date : ℤ}

/-- At most one price applies on a date. -/
theorem Timeline.unique (h : Timeline prices) {q : Price} (hp : p ∈ prices) (hq : q ∈ prices)
    (hpdate : p.Covers date) (hqdate : q.Covers date) : p = q := by
  obtain ⟨-, hapart⟩ := h
  induction hapart with
  | nil => exact absurd hp not_mem_nil
  | @cons later rest hrest _ ih =>
    have hnot : ∀ r ∈ rest, r.Covers date → ¬later.Covers date := by
      intro r hr hrdate hlater
      obtain ⟨e, he, hlt⟩ := hrest r hr
      have hle := hrdate.2 e he
      have hge := hlater.1
      omega
    cases hp with
    | head =>
      cases hq with
      | head => rfl
      | tail _ hq => exact absurd hpdate (hnot q hq hqdate)
    | tail _ hp =>
      cases hq with
      | head => exact absurd hqdate (hnot p hp hpdate)
      | tail _ hq => exact ih hp hq

theorem Timeline.lt (h : Timeline (latest :: prices)) (hp : p ∈ prices) :
    p.validFrom < latest.validFrom := by
  obtain ⟨e, he, hlt⟩ := rel_of_pairwise_cons h.apart hp
  have hle := h.dated p (mem_cons_of_mem _ hp) e he
  omega

/-- The latest price of a timeline is the first. -/
theorem latestPrice_cons (h : Timeline (latest :: prices)) :
    latestPrice (latest :: prices) = some latest := by
  have hsorted : (latest :: prices).Pairwise fun a b ↦ b.validFrom ≤ a.validFrom := by
    refine h.apart.imp_of_mem fun {a b} _ hb ⟨e, he, _⟩ ↦ ?_
    have hle := h.dated b hb e he
    omega
  rw [latestPrice, orderBy, hsorted.insertionSort_eq]
  rfl

/-- **The start fits the latest period**: after its start and, on its last day, without a time; or
its date is a duplicate. -/
def Price.Precedes (p : Price) (m : Moment) : Prop :=
  p.validFrom < m.day ∧ (p.validTo = some m.day → m.late = false) ∨
    p.validFrom = m.day ∧ p.validTo = some m.day ∧ m.late = true
deriving Decidable

theorem Price.Precedes.dated (h : p.Precedes m) (hp : p.Dated) : (p.cut m).Dated := by
  rw [Price.cut]
  split
  next hcut =>
    rintro e he
    cases he
    rcases h with hstart | ⟨-, hto, hlate⟩
    · exact Int.le_sub_one_of_lt hstart.1
    · rcases hcut m.day hto with hbefore | ⟨-, hearly⟩
      · exact absurd hbefore (lt_irrefl _)
      · rw [hlate] at hearly
        cases hearly
  next => exact hp

theorem Price.cut_before (hedge : p.validTo = some m.day → m.late = false) :
    ∃ e ∈ (p.cut m).validTo, e < m.day := by
  rw [Price.cut]
  split
  next => exact ⟨m.day - 1, rfl, by omega⟩
  next hcut =>
    rw [not_forall] at hcut
    obtain ⟨e, hcut⟩ := hcut
    rw [Classical.not_imp, Moment.AtMost, not_or] at hcut
    obtain ⟨he, hle, hedge'⟩ := hcut
    refine ⟨e, he, lt_of_le_of_ne (not_lt.mp hle) fun heq ↦ ?_⟩
    exact hedge' ⟨heq.symm, hedge (heq ▸ he)⟩

@[simp] theorem Price.cut_validFrom : (p.cut m).validFrom = p.validFrom := by
  rw [Price.cut]
  split <;> rfl

theorem cutLatest_cons (h : Timeline (latest :: prices)) :
    cutLatest (latest :: prices) latest m = latest.cut m :: prices := by
  rw [cutLatest, map_cons, if_pos rfl]
  refine congrArg _ ((map_congr_left fun p hp ↦ ?_).trans (map_id _))
  exact if_neg (h.lt hp).ne

variable {env} {dto : SupplierProductDto}

theorem insertPrice_eq_ok :
    insertPrice env prices dto = .ok prices' ↔ ∃ q, dto.price env = some q ∧ q.Dated ∧
      (∀ p ∈ prices, p.validFrom ≠ q.validFrom) ∧ q :: prices = prices' := by
  simp only [insertPrice, eq_ok, exists_const]

theorem SupplierProductDto.price_validFrom (h : dto.price env = some p)
    (hm : env.read dto.validFrom = some m) : p.validFrom = m.day := by
  rw [SupplierProductDto.price, hm] at h
  obtain ⟨start, hstart, h⟩ := Option.bind_eq_some_iff.mp h
  obtain ⟨last, -, h⟩ := Option.bind_eq_some_iff.mp h
  cases hstart
  cases h
  rfl

/-- **A new period** behind the latest one keeps the timeline, and the prices of the dates before.
-/
theorem Timeline.extend (h : Timeline (latest :: prices)) (hm : env.read dto.validFrom = some m)
    (hprecedes : latest.Precedes m)
    (hinsert : insertPrice env (cutLatest (latest :: prices) latest m) dto = .ok prices') :
    Timeline prices' ∧ ∀ date < m.day, priceOn prices' date = priceOn (latest :: prices) date := by
  rw [cutLatest_cons h] at hinsert
  obtain ⟨q, hq, hdated, hnew, rfl⟩ := insertPrice_eq_ok.mp hinsert
  have hday := SupplierProductDto.price_validFrom hq hm
  obtain ⟨hlt, hedge⟩ : latest.validFrom < m.day ∧
    (latest.validTo = some m.day → m.late = false) := by
    rcases hprecedes with hprecedes | ⟨heq, -, -⟩
    · exact hprecedes
    · exact absurd ((Price.cut_validFrom.trans heq).trans hday.symm) (hnew _ mem_cons_self)
  obtain ⟨hfirst, hrest⟩ := pairwise_cons.mp h.apart
  obtain ⟨last, hlast, hbefore⟩ := Price.cut_before hedge
  refine ⟨⟨?_, ?_⟩, fun date hdate ↦ ?_⟩
  · rw [forall_mem_cons, forall_mem_cons]
    exact ⟨hdated, hprecedes.dated (h.dated _ mem_cons_self),
      fun p hp ↦ h.dated p (mem_cons_of_mem _ hp)⟩
  · refine pairwise_cons.mpr ⟨?_, pairwise_cons.mpr ⟨fun p hp ↦ ?_, hrest⟩⟩
    · rw [forall_mem_cons, hday]
      refine ⟨⟨last, hlast, hbefore⟩, fun p hp ↦ ?_⟩
      obtain ⟨e, he, hlate⟩ := hfirst p hp
      exact ⟨e, he, hlate.trans hlt⟩
    · rw [Price.cut_validFrom]
      exact hfirst p hp
  · have hstart : ¬q.Covers date := fun hcovers ↦ absurd hcovers.1 (by omega)
    have hsame : (latest.cut m).Covers date ↔ latest.Covers date := by
      rw [Price.Covers, Price.Covers, Price.cut_validFrom]
      refine and_congr_right fun _ ↦ ?_
      rw [Price.cut]
      split
      next hall =>
        refine ⟨fun _ e he ↦ ?_, fun _ e he ↦ ?_⟩
        · rcases hall e he with hlt | ⟨heq, -⟩ <;> omega
        · cases he
          exact Int.le_sub_one_of_lt hdate
      next => exact Iff.rfl
    have hvalue : ((latest.cut m).currency, (latest.cut m).unitCost) =
        (latest.currency, latest.unitCost) := by
      rw [Price.cut]
      split <;> rfl
    rw [priceOn, priceOn, find?_cons_of_neg (by simpa using hstart), find?_cons,
      find?_cons]
    simp only [hsame]
    split
    · exact congrArg some hvalue
    · rfl

/-! ### Runs -/

def Declared : SupplierFailure → Prop
  | .database _ => False
  | _ => True

/-- **What a request owes**: it keeps the timelines and the prices of all dates before its start, or
is refused by the source. -/
structure Lawful (env : SupplierEnv) (s : SupplierStore) (request : SupplierRequest) : Prop where
  timelines : ∀ s', step env s request = .ok s' → ∀ l ∈ s'.links.rows, Timeline l.prices
  past : ∀ s' id version dto, request = .update id version dto → step env s request = .ok s' →
    ∀ l ∈ s.links.find? id, ∀ l' ∈ s'.links.find? id, ∀ m ∈ env.read dto.validFrom,
      ∀ date < m.day, priceOn l'.prices date = priceOn l.prices date
  declared : ∀ e, step env s request = .error e → Declared e

/-- The code fits its column, the dates are read, and the end is not before the start. -/
def SupplierProductDto.Fits (env : SupplierEnv) (dto : SupplierProductDto) : Prop :=
  characters (env.normalize dto.supplierCode) ≤ 64 ∧ ∃ p ∈ dto.price env, p.Dated
deriving Decidable

/-- **The condition.** A request that passes the checks fits the columns; a creation draws a new
identifier; and a start after the latest one, as texts, fits its period. -/
def Meets (env : SupplierEnv) (s : SupplierStore) : SupplierRequest → Prop
  | .create id dto => ¬dto.EndsBefore → s.links.find? id = none ∧ dto.Fits env
  | .update id version dto => ¬dto.EndsBefore → ∀ l ∈ s.links.find? id, l.version = version →
    ∀ p ∈ latestPrice l.prices, env.dateOnly p.validFrom < dto.validFrom →
      dto.Fits env ∧ ∀ m ∈ env.read dto.validFrom, p.Precedes m
  | .elsewhere _ _ => True

variable {s s' : SupplierStore} {id : Uuid} {version : ℕ} {d : DatabaseError}

theorem avoids_checkCode (hfits : dto.Fits env) : Avoids (checkCode env s id dto) (.database d) :=
  avoids_bind (avoids_ensure_of hfits.1) fun _ _ ↦ avoids_ensure nofun

theorem avoids_insertPrice (hfits : dto.Fits env) :
    Avoids (insertPrice env prices dto) (.database d) := by
  obtain ⟨-, p, hp, hdated⟩ := hfits
  rw [insertPrice, Option.mem_def.mp hp]
  refine avoids_bind (avoids_pure p) fun _ hq ↦ ?_
  cases hq
  exact avoids_bind (avoids_ensure_of hdated) fun _ _ ↦ avoids_map (avoids_ensure nofun)

theorem create_avoids (h : Meets env s (.create id dto)) :
    Avoids (create env s id dto) (.database d) := by
  refine avoids_ensure_bind nofun fun hends ↦ ?_
  obtain ⟨hid, hfits⟩ := h hends
  refine avoids_ensure_bind nofun fun _ ↦ ?_
  refine avoids_ensure_bind nofun fun _ ↦ ?_
  refine avoids_ensure_bind nofun fun _ ↦ ?_
  refine avoids_bind (avoids_checkCode hfits) fun _ _ ↦ ?_
  refine avoids_bind (avoids_insertPrice hfits) fun prices _ ↦ ?_
  obtain ⟨links, hinsert⟩ := insert_isSome (t := s.links) (r := {
    id := id, supplierId := dto.supplierId, productId := dto.productId,
    supplierCode := dto.supplierCode, normalizedSupplierCode := env.normalize dto.supplierCode,
    version := 1, prices := prices }) hid
  rw [hinsert]
  exact avoids_pure _

theorem update_avoids (h : Meets env s (.update id version dto))
    (hsound : ∀ l ∈ s.links.rows, Timeline l.prices) :
    Avoids (update env s id version dto) (.database d) := by
  refine avoids_ensure_bind nofun fun hends ↦ ?_
  refine avoids_bind (avoids_demand nofun) fun current hcurrent ↦ ?_
  refine avoids_ensure_bind nofun fun hversion ↦ ?_
  refine avoids_ensure_bind nofun fun _ ↦ ?_
  refine avoids_bind (avoids_demand nofun) fun latest hlatest ↦ ?_
  refine avoids_ensure_bind nofun fun hafter ↦ ?_
  rw [demand_eq_ok] at hcurrent hlatest
  obtain ⟨hfits, hprecedes⟩ := h hends current hcurrent hversion latest hlatest hafter
  refine avoids_bind (avoids_checkCode hfits) fun _ _ ↦ ?_
  obtain ⟨p, hp, -⟩ := hfits.2
  obtain ⟨start, hstart, -⟩ := Option.bind_eq_some_iff.mp hp
  rw [hstart]
  refine avoids_bind (avoids_pure start) fun _ hm ↦ ?_
  cases hm
  have hmem : latest ∈ current.prices := mem_orderBy.mp (mem_of_head? hlatest)
  have hcut := (hprecedes start hstart).dated
    ((hsound current (mem_of_find? hcurrent)).dated latest hmem)
  refine avoids_bind (avoids_ensure_of hcut) fun _ _ ↦ ?_
  exact avoids_map (avoids_insertPrice hfits)

theorem timeline_singleton (hdated : p.Dated) : Timeline [p] :=
  ⟨forall_mem_singleton.mpr hdated, pairwise_singleton _ _⟩

theorem create_timelines (hsound : ∀ l ∈ s.links.rows, Timeline l.prices)
    (h : create env s id dto = .ok s') : ∀ l ∈ s'.links.rows, Timeline l.prices := by
  simp only [create, eq_ok] at h
  obtain ⟨-, -, -, -, -, -, -, -, -, -, prices, hprices, links, hinsert, rfl⟩ := h
  obtain ⟨p, -, hdated, -, rfl⟩ := insertPrice_eq_ok.mp hprices
  exact (forall_mem_insert hinsert).mpr ⟨hsound, timeline_singleton hdated⟩

/-- **An update** of a link with a timeline extends it. -/
theorem update_extends (hsound : ∀ l ∈ s.links.rows, Timeline l.prices)
    (hmeets : Meets env s (.update id version dto)) (h : update env s id version dto = .ok s') :
    ∃ current prices, s.links.find? id = some current ∧ Timeline prices ∧
      (∀ m ∈ env.read dto.validFrom, ∀ date < m.day,
        priceOn prices date = priceOn current.prices date) ∧
      ∃ f hf, s'.links = s.links.update id f hf ∧ ∀ l, (f l).prices = prices := by
  simp only [update, eq_ok] at h
  obtain ⟨-, hends, current, hcurrent, -, hversion, -, -, latest, hlatest, -, hafter, -, -, start,
    hstart, -, -, prices, hprices, rfl⟩ := h
  have htimeline := hsound current (mem_of_find? hcurrent)
  have hprecedes :=
    (hmeets hends current hcurrent hversion latest hlatest hafter).2 start hstart
  obtain ⟨first, rest, hcons⟩ : ∃ first rest, current.prices = first :: rest := by
    cases hlist : current.prices with
    | nil =>
      rw [hlist] at hlatest
      cases hlatest
    | cons first rest => exact ⟨first, rest, rfl⟩
  rw [hcons] at htimeline hlatest hprices
  rw [latestPrice_cons htimeline, Option.some.injEq] at hlatest
  subst hlatest
  obtain ⟨hextended, hpast⟩ := htimeline.extend hstart hprecedes hprices
  refine ⟨current, prices, hcurrent, hextended, fun m hm date hdate ↦ ?_, fun l ↦ { l with
    supplierCode := dto.supplierCode, normalizedSupplierCode := env.normalize dto.supplierCode,
    version := l.version + 1, prices := prices }, fun _ ↦ rfl, rfl, fun _ ↦ rfl⟩
  cases hstart.symm.trans hm
  rw [hcons]
  exact hpast date hdate

/-- **A request that meets the condition is lawful.** -/
theorem step_lawful {request : SupplierRequest} (hsound : ∀ l ∈ s.links.rows, Timeline l.prices)
    (hmeets : Meets env s request) : Lawful env s request := by
  have hdeclared : ∀ {x : Except SupplierFailure SupplierStore},
      (∀ d, Avoids x (.database d)) → ∀ e, x = .error e → Declared e := by
    intro x havoids e he
    cases e with
    | database d => exact havoids d he
    | _ => trivial
  cases request with
  | create id dto =>
    exact ⟨fun s' h ↦ create_timelines hsound h, nofun, hdeclared fun d ↦ create_avoids hmeets⟩
  | update id version dto =>
    refine ⟨fun s' h l hl ↦ ?_, fun s' id' version' dto' heq h l hl l' hl' ↦ ?_,
      hdeclared fun d ↦ update_avoids hmeets hsound⟩
    · obtain ⟨current, prices, -, htimeline, -, f, hf, hlinks, hf'⟩ :=
        update_extends hsound hmeets h
      rw [hlinks] at hl
      exact forall_mem_update _ hsound (fun r _ _ ↦ hf' r ▸ htimeline) l hl
    · cases heq
      obtain ⟨current, prices, hcurrent, -, hpast, f, hf, hlinks, hf'⟩ :=
        update_extends hsound hmeets h
      rw [hlinks, find?_update_self, hcurrent] at hl'
      cases hl'
      cases hl.symm.trans hcurrent
      rw [hf']
      exact hpast
  | «elsewhere» suppliers products => exact ⟨fun s' h ↦ by cases h; exact hsound, nofun, nofun⟩

/-- **The supplier price timeline**, in every run whose requests meet the condition: disjoint
periods, at most one price on a date, and lawful requests. -/
theorem supplier_prices_timeline (env : SupplierEnv) (suppliers products : List Uuid)
    (requests : List SupplierRequest)
    (hmeets : Along (step env) (Meets env) ⟨suppliers, products, .empty⟩ requests) :
    (∀ l ∈ (run (step env) ⟨suppliers, products, .empty⟩ requests).links.rows,
      Timeline l.prices ∧ ∀ date, ∀ p ∈ l.prices, ∀ q ∈ l.prices,
        p.Covers date → q.Covers date → p = q) ∧
      Along (step env) (Lawful env) ⟨suppliers, products, .empty⟩ requests := by
  have hempty : ∀ l ∈ (⟨suppliers, products, .empty⟩ : SupplierStore).links.rows,
      Timeline l.prices := forall_mem_nil _
  have hkeeps : ∀ s request s', (∀ l ∈ s.links.rows, Timeline l.prices) → Meets env s request →
      step env s request = .ok s' → ∀ l ∈ s'.links.rows, Timeline l.prices :=
    fun s request s' hsound hmeets h ↦ (step_lawful hsound hmeets).timelines s' h
  have htimelines := run_induct_along hkeeps hempty requests hmeets
  exact ⟨fun l hl ↦ ⟨htimelines l hl, fun _ _ hp _ hq ↦ (htimelines l hl).unique hp hq⟩,
    along_induct (fun _ _ ↦ step_lawful) hkeeps hempty requests hmeets⟩

def calendar : List (Text × Moment) :=
  [(textOf "2026-06-01", ⟨20605, false⟩), (textOf "2026-06-30", ⟨20634, false⟩),
    (textOf "2026-06-30T12:00", ⟨20634, true⟩), (textOf "20260101", ⟨20454, false⟩)]

def calendarEnv : SupplierEnv where
  read t := (calendar.find? fun d ↦ d.1 = t).map Prod.snd
  dateOnly day := ((calendar.find? fun d ↦ d.2 = ⟨day, false⟩).map Prod.fst).getD []
  normalize t := t
  collate t := t

def priceFrom (validFrom : String) (validTo : Option String) : SupplierProductDto where
  supplierId := 1
  productId := 2
  supplierCode := textOf "A-1"
  currency := textOf "PEN"
  unitCost := 250
  validFrom := textOf validFrom
  validTo := validTo.map textOf

def pricesAfter (requests : List SupplierRequest) : SupplierStore :=
  run (step calendarEnv) ⟨[1], [2], .empty⟩ requests

theorem supplier_prices_timeline_twoPeriods : (pricesAfter [.create 7 (priceFrom "2026-06-01" none),
      .update 7 1 (priceFrom "2026-06-30" none)]).links.rows.length = 1 ∧
    ∀ l ∈ (pricesAfter [.create 7 (priceFrom "2026-06-01" none),
      .update 7 1 (priceFrom "2026-06-30" none)]).links.rows, Timeline l.prices := by
  refine ⟨by decide +kernel, fun l hl ↦ ((supplier_prices_timeline calendarEnv [1] [2]
    [.create 7 (priceFrom "2026-06-01" none), .update 7 1 (priceFrom "2026-06-30" none)] ?_).1
      l hl).1⟩
  refine ⟨?_, ?_, trivial⟩
  · exact fun _ ↦ ⟨rfl, by decide +kernel⟩
  · intro _ l hl _ p hp _
    cases hl
    cases hp
    exact ⟨by decide +kernel, by decide +kernel⟩

/-- **Two spellings**: a start with a time on the last day of a period shares that day, and one in
the basic form is taken for a later one. -/
theorem spellings : (∃ l ∈ (pricesAfter [.create 7 (priceFrom "2026-06-01" (some "2026-06-30")),
      .update 7 1 (priceFrom "2026-06-30T12:00" none)]).links.rows,
      (l.prices.filter fun p ↦ p.Covers 20634).length = 2) ∧
    step calendarEnv (pricesAfter [.create 7 (priceFrom "2026-06-01" none)])
      (.update 7 1 (priceFrom "20260101" none)) = .error (.database .checkViolated) := by
  refine ⟨⟨_, mem_cons_self, rfl⟩, rfl⟩

end UInventario.Suppliers
