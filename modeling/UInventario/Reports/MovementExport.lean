import UInventario.Foundations.Outcome
import UInventario.Foundations.Queries
import UInventario.Inventory.Store
import UInventario.Reports.LocalDays

/-!
# The export of the movements

The export and `listMovements` read the movements of a branch by a query each, with the same filters
and in the same order. The export takes its days on the clock of the branch, the list takes those of
the database. Dates are numbers of days, `created_at` is in microseconds. A time zone is what its
clock is ahead of UTC at an instant, by any amount and however it is set.

The exported rows are the pages of the list put together exactly when no movement that the other
filters admit lies in the days of one query only (`exported_eq_listed_iff`).
-/

namespace UInventario.Reports

open Outcome List

/-! ### What the queries read -/

structure Branch where
  id : Uuid
  active : Bool
  timezone : ℤ → ℤ

instance : Keyed Branch Uuid := ⟨Branch.id⟩

/-- **The movements of a tenant**, with what their foreign keys refer to. -/
structure MovementHistory where
  store : Store
  branches : Table Branch
  users : List Uuid
  /-- `created_by_user_id` of a movement. -/
  createdBy : Uuid → Uuid
  product : ∀ m ∈ store.movements.rows, (store.products.find? m.productId).isSome
  user : ∀ m ∈ store.movements.rows, createdBy m.id ∈ users

structure MovementFilter where
  productId : Option Uuid := none
  locationId : Option Uuid := none
  userId : Option Uuid := none
  type : Option MovementType := none
  dateFrom : Option ℤ := none
  dateTo : Option ℤ := none

inductive HistoryFailure
  | notFound | inventoryTargetNotFound | exportRowLimitExceeded
  deriving DecidableEq

def MovementHistory.MAX_ROWS : ℕ := 100000

variable (s : MovementHistory) (branchId : Uuid) (filter : MovementFilter)

/-- `w.branch_id` of a movement. -/
def MovementHistory.branchOf (m : Movement) : Option Uuid := do
  let location ← s.store.locations.find? m.locationId
  let warehouse ← s.store.documents.warehouses.find? location.warehouseId
  return warehouse.branchId

namespace MovementFilter

/-- The filters other than those by dates. -/
def Admits (m : Movement) : Prop :=
  s.branchOf m = some branchId ∧ (∀ id ∈ filter.productId, m.productId = id) ∧
    (∀ id ∈ filter.locationId, m.locationId = id) ∧
    (∀ id ∈ filter.userId, s.createdBy m.id = id) ∧ ∀ type ∈ filter.type, m.type = type
  deriving Decidable

/-- The filters of the list by dates. -/
def InDays (m : Movement) : Prop :=
  (∀ date ∈ filter.dateFrom, date * DAY * 1000 ≤ m.createdAt) ∧
    ∀ date ∈ filter.dateTo, (m.createdAt : ℤ) < (date + 1) * DAY * 1000
  deriving Decidable

/-- `dateFilters` of the export. -/
def InLocalDays (timezone : ℤ → ℤ) (m : Movement) : Prop :=
  (∀ date ∈ filter.dateFrom, localBoundary timezone date 0 * 1000 ≤ m.createdAt) ∧
    ∀ date ∈ filter.dateTo, (m.createdAt : ℤ) < localBoundary timezone date 1 * 1000
  deriving Decidable

end MovementFilter

/-- `ORDER BY created_at DESC, id DESC`. -/
def newer (a b : Movement) : Prop :=
  b.createdAt < a.createdAt ∨ a.createdAt = b.createdAt ∧ b.id ≤ a.id
  deriving Decidable

/-! ### The queries -/

def exportMovements (includeSensitive : Bool) : Except HistoryFailure (List Movement) := do
  let branch ← Outcome.demand ((s.branches.find? branchId).filter Branch.active) .notFound
  let rows := limited newer (MovementHistory.MAX_ROWS + 1) (s.store.movements.rows.filter fun m ↦
    filter.Admits s branchId m ∧ filter.InLocalDays branch.timezone m ∧
      (s.store.products.find? m.productId).isSome ∧ (includeSensitive → s.createdBy m.id ∈ s.users))
  ensure (¬MovementHistory.MAX_ROWS < rows.length) .exportRowLimitExceeded
  return rows

structure MovementPage where
  items : List Movement
  total : ℕ

def listMovements (page pageSize : ℕ) : Except HistoryFailure MovementPage := do
  let branch ← Outcome.demand ((s.branches.find? branchId).filter Branch.active)
    .inventoryTargetNotFound
  let rows := s.store.movements.rows.filter fun m ↦
    filter.Admits s branch.id m ∧ filter.InDays m ∧
      (s.store.products.find? m.productId).isSome ∧ s.createdBy m.id ∈ s.users
  return {
    items := ((orderBy newer rows).drop ((page - 1) * pageSize)).take pageSize
    total := rows.length }

/-- A walk through all pages, as many as the first one says. -/
def allMovements (pageSize : ℕ) : Except HistoryFailure (List Movement) := do
  let first ← listMovements s branchId filter 1 pageSize
  let pages ← (List.range ((first.total + pageSize - 1) / pageSize)).mapM fun page ↦
    listMovements s branchId filter (page + 1) pageSize
  return pages.flatMap MovementPage.items

/-! ### What they return -/

variable {s branchId filter} {branch : Branch} {rows : List Movement} {pageSize : ℕ}

theorem exportMovements_eq_ok {includeSensitive : Bool}
    (hbranch : s.branches.find? branchId = some branch)
    (h : exportMovements s branchId filter includeSensitive = .ok rows) :
    branch.active ∧ rows = orderBy newer (s.store.movements.rows.filter fun m ↦
      filter.Admits s branchId m ∧ filter.InLocalDays branch.timezone m) := by
  simp only [exportMovements, eq_ok] at h
  obtain ⟨branch', hfound, _, hlimit, rfl⟩ := h
  obtain ⟨hfound, hactive⟩ := Option.filter_eq_some_iff.mp hfound
  obtain rfl := Option.some_inj.mp (hbranch.symm.trans hfound)
  refine ⟨hactive, ?_⟩
  have hall : (s.store.movements.rows.filter fun m ↦ filter.Admits s branchId m ∧
      filter.InLocalDays branch.timezone m ∧ (s.store.products.find? m.productId).isSome ∧
        (includeSensitive → s.createdBy m.id ∈ s.users)) =
      s.store.movements.rows.filter fun m ↦
        filter.Admits s branchId m ∧ filter.InLocalDays branch.timezone m :=
    filter_congr fun m hm ↦ by simp [s.product m hm, s.user m hm]
  rw [hall, limited] at hlimit ⊢
  rw [length_take] at hlimit
  exact take_of_length_le (by omega)

theorem allMovements_eq_ok (hpage : 0 < pageSize)
    (hbranch : s.branches.find? branchId = some branch) (hactive : branch.active) :
    allMovements s branchId filter pageSize = .ok (orderBy newer
      (s.store.movements.rows.filter fun m ↦ filter.Admits s branchId m ∧ filter.InDays m)) := by
  have hall : (s.store.movements.rows.filter fun m ↦ filter.Admits s branchId m ∧
      filter.InDays m ∧ (s.store.products.find? m.productId).isSome ∧ s.createdBy m.id ∈ s.users) =
      s.store.movements.rows.filter fun m ↦ filter.Admits s branchId m ∧ filter.InDays m :=
    filter_congr fun m hm ↦ by simp [s.product m hm, s.user m hm]
  obtain ⟨l, hl⟩ : ∃ l, l = orderBy newer (s.store.movements.rows.filter fun m ↦
    filter.Admits s branchId m ∧ filter.InDays m) := ⟨_, rfl⟩
  have hpages : ∀ page, listMovements s branchId filter page pageSize =
      .ok ⟨(l.drop ((page - 1) * pageSize)).take pageSize, l.length⟩ := by
    intro page
    rw [listMovements, hbranch, Option.filter_some_pos hactive]
    show Except.ok _ = _
    rw [show branch.id = branchId from Table.key_of_find? hbranch, hall, hl,
      (orderBy_perm newer _).length_eq]
  have hwalk : (List.range ((l.length + pageSize - 1) / pageSize)).mapM (fun page ↦
      listMovements s branchId filter (page + 1) pageSize) =
      .ok ((List.range ((l.length + pageSize - 1) / pageSize)).map fun page ↦
        ⟨(l.drop (page * pageSize)).take pageSize, l.length⟩) :=
    mapM_of_forall fun page _ ↦ hpages (page + 1)
  have hcovers : l.length ≤ (l.length + pageSize - 1) / pageSize * pageSize := by
    have hdiv := Nat.div_add_mod' (l.length + pageSize - 1) pageSize
    have hmod := Nat.mod_lt (l.length + pageSize - 1) hpage
    omega
  rw [allMovements, hpages, ok_bind, hwalk, ok_bind, ← hl]
  show Except.ok _ = _
  rw [flatMap_map, flatMap_pages, take_of_length_le hcovers]

/-- **The export and the list agree** exactly when no movement lies in the days of one only. -/
theorem exported_eq_listed_iff {includeSensitive : Bool} (hpage : 0 < pageSize)
    (hbranch : s.branches.find? branchId = some branch)
    (hexport : exportMovements s branchId filter includeSensitive = .ok rows) :
    (allMovements s branchId filter pageSize = .ok rows ∧ rows.Nodup) ↔
      ∀ m ∈ s.store.movements.rows, filter.Admits s branchId m →
        (filter.InDays m ↔ filter.InLocalDays branch.timezone m) := by
  obtain ⟨hactive, rfl⟩ := exportMovements_eq_ok hbranch hexport
  rw [allMovements_eq_ok hpage hbranch hactive, Except.ok.injEq, orderBy_filter_eq_iff]
  refine (and_iff_left ((orderBy_perm newer _).nodup_iff.mpr
    (s.store.movements.nodup_rows.filter _))).trans ?_
  refine forall₂_congr fun m _ ↦ ?_
  rw [decide_eq_decide, and_congr_right_iff]

/-! ### An evening in Lima -/

def lima : ℤ → ℤ := fun _ ↦ -5 * HOUR

/-- At two in the morning of UTC, and nine in the evening of the day before. -/
def evening : Movement where
  id := 1
  productId := 1
  locationId := 1
  type := .ENTRY
  quantityChange := 1000
  resultingQuantity := 1000
  idempotencyKey := .request []
  createdAt := 93600000000

def oneEvening : MovementHistory where
  store := { Store.fresh default with
    products := .ofRow (.plain 1 0)
    locations := .ofRow { id := 1, warehouseId := 1, active := true, createdAt := 0 }
    movements := .ofRow evening
    documents := { Documents.empty with
      warehouses := .ofRow { id := 1, branchId := 1, active := true } } }
  branches := ⟨[{ id := 1, active := true, timezone := lima }], by simp⟩
  users := [1]
  createdBy _ := 1
  product m hm := by rw [mem_singleton.mp hm]; rfl
  user _ _ := mem_cons_self

theorem exported_eq_listed_iff_oneEvening :
    (allMovements oneEvening 1 { dateFrom := some 1 } 20 = .ok [] ∧ ([] : List Movement).Nodup) ↔
      ∀ m ∈ oneEvening.store.movements.rows,
        MovementFilter.Admits oneEvening 1 { dateFrom := some 1 } m →
          (MovementFilter.InDays { dateFrom := some 1 } m ↔
            MovementFilter.InLocalDays { dateFrom := some 1 } lima m) :=
  @exported_eq_listed_iff oneEvening 1 { dateFrom := some 1 }
    ⟨1, true, lima⟩ [] 20 false (by decide)
    (by rfl) (by rfl)

/-- **An evening in Lima** is listed on the day after, and not exported with it. -/
theorem evening_not_exported : allMovements oneEvening 1 { dateFrom := some 1 } 20 = .ok [evening] ∧
    exportMovements oneEvening 1 { dateFrom := some 1 } false = .ok [] :=
  ⟨by rfl, by rfl⟩

end UInventario.Reports
