import UInventario.Foundations.Queries
import UInventario.Notifications.Deliveries
import UInventario.Orders.Schema
import UInventario.Procurement.Schema

/-!
# What there is to notify of

`listSourceEvents` and its six queries: products low on stock, lots about to expire, purchases under
way, differences of the cash desk, commands of offline devices and operations that have failed. Each
joins its rows, sorts them and reads a hundred of them, so a query is one definition with parameters
(`SourceQuery`).

* Times are in milliseconds, a day is a number, and a key of an event is what is written into it.
* `NotificationEnv` has the calendar of a time zone, the text of a day, and the order of rows that a
  query does not tell apart.
* A user who has a role with the code `ADMIN` is one for whom `admin` is set.
-/

namespace UInventario.Notifications

/-! ### Rows -/

/-- A row of `users`, with its roles and branches. -/
structure User where
  id : Uuid
  admin : Bool
  branchAccess : List Uuid

instance : Keyed User Uuid := ⟨User.id⟩

/-- A row of `branches`. -/
structure Branch where
  id : Uuid
  active : Bool
  timezone : Text

instance : Keyed Branch Uuid := ⟨Branch.id⟩

structure Warehouse where
  (id branchId : Uuid)

instance : Keyed Warehouse Uuid := ⟨Warehouse.id⟩

structure StockLocation where
  id : Uuid
  name : Text
  active : Bool
  warehouseId : Uuid

instance : Keyed StockLocation Uuid := ⟨StockLocation.id⟩

structure Product where
  id : Uuid
  (name sku : Text)
  active : Bool
  lotExpirationAlertDays : ℕ

instance : Keyed Product Uuid := ⟨Product.id⟩

/-- `inventory_stock_alert_states.status`. -/
inductive StockAlertStatus
  | HEALTHY | LOW | OUT_OF_STOCK | RECOVERED
  deriving DecidableEq

/-- A row of `inventory_stock_alert_states`. Quantities are in thousandths. -/
structure StockAlert where
  (productId locationId : Uuid)
  status : StockAlertStatus
  availableQuantity : ℕ
  transitionedAt : Timestamp

instance : Keyed StockAlert (Uuid × Uuid) := ⟨fun alert ↦ (alert.productId, alert.locationId)⟩

structure Lot where
  id : Uuid
  code : Text
  productId : Uuid
  expiresOn : Option Day

instance : Keyed Lot Uuid := ⟨Lot.id⟩

structure LotBalance where
  (lotId locationId : Uuid)
  quantity : ℕ

instance : Keyed LotBalance (Uuid × Uuid) := ⟨fun balance ↦ (balance.lotId, balance.locationId)⟩

/-- A row of `purchase_orders`. -/
structure Purchase where
  id : Uuid
  folio : Text
  status : Procurement.PurchaseOrderStatus
  updatedAt : Timestamp

instance : Keyed Purchase Uuid := ⟨Purchase.id⟩

structure Register where
  id : Uuid
  code : Text

instance : Keyed Register Uuid := ⟨Register.id⟩

/-- The closing columns of a shift, which the status `CLOSED` comes with. -/
structure ShiftClosure where
  differenceAtClose : Option ℤ
  closedAt : Timestamp

structure Shift where
  (id branchId cashRegisterId : Uuid)
  currency : Text
  closure : Option ShiftClosure

instance : Keyed Shift Uuid := ⟨Shift.id⟩

/-- `offline_commands.status`. -/
inductive OfflineCommandStatus
  | PENDING | CONFIRMED | ERROR
  deriving DecidableEq

structure OfflineCommand where
  commandId : Uuid
  kind : Text
  status : OfflineCommandStatus
  completedAt : Option Timestamp
  receivedAt : Timestamp

instance : Keyed OfflineCommand Uuid := ⟨OfflineCommand.commandId⟩

/-- `data_exports.status`. -/
inductive DataExportStatus
  | PENDING | PROCESSING | COMPLETED | FAILED | EXPIRED
  deriving DecidableEq

structure DataExport where
  id : Uuid
  status : DataExportStatus
  errorCode : Option Text
  updatedAt : Timestamp

instance : Keyed DataExport Uuid := ⟨DataExport.id⟩

structure OrderFulfillment where
  orderId : Uuid
  status : Orders.FulfillmentStatus
  lastErrorCode : Option Text
  updatedAt : Timestamp

instance : Keyed OrderFulfillment Uuid := ⟨OrderFulfillment.orderId⟩

/-- **The tables that events come from**, and the clock. -/
structure Sources where
  users : Table User
  branches : Table Branch
  warehouses : Table Warehouse
  locations : Table StockLocation
  products : Table Product
  stockAlerts : Table StockAlert
  lots : Table Lot
  lotBalances : Table LotBalance
  purchases : Table Purchase
  registers : Table Register
  shifts : Table Shift
  offlineCommands : Table OfflineCommand
  dataExports : Table DataExport
  fulfillments : Table OrderFulfillment
  now : Timestamp

structure NotificationEnv where
  /-- The day in a time zone. -/
  inventoryLocalDate : (timezone : Text) → Timestamp → Day
  /-- `YYYY-MM-DD`. -/
  dayText : Day → Text
  /-- The order in which the database comes upon the rows of a query. -/
  scan : {α : Type} → List α → List α
  scan_perm : ∀ {α : Type} (rows : List α), (scan rows).Perm rows

/-! ### Events -/

inductive NotificationEventType
  | STOCK_LOW | LOT_EXPIRING | PURCHASE_PENDING | CASH_DIFFERENCE | SYNC_FAILED | OPERATION_FAILED
  deriving DecidableEq

inductive NotificationSeverity
  | INFO | WARNING | CRITICAL
  deriving DecidableEq

/-- `source_type` of `operationEvents`. -/
inductive OperationType
  | DATA_EXPORT | ORDER_FULFILLMENT
  deriving DecidableEq

inductive SourceKey
  | stock (productId locationId : Uuid) (status : StockAlertStatus) (transitionedAt : Timestamp)
  | lot (lotId locationId : Uuid) (expiresOn : Day)
  | purchase (id : Uuid) (status : Procurement.PurchaseOrderStatus) (updatedAt : Timestamp)
  | cash (id : Uuid) (closedAt : Timestamp)
  | sync (commandId : Uuid)
  | operation (sourceType : OperationType) (sourceId : Uuid) (occurredAt : Timestamp)
  | digest (eventType : NotificationEventType) (day : Day)
  deriving DecidableEq

/-- `NotificationSourceEvent`. -/
structure SourceEvent where
  eventType : NotificationEventType
  sourceKey : SourceKey
  (title body : Text)
  severity : NotificationSeverity
  branchId : Option Uuid
  occurredAt : Timestamp

def toFixed (digits : ℕ) (value : ℤ) : Text :=
  (Decimal.fixedText digits value).map Char.toNat

def numberText (n : ℕ) : Text :=
  (Decimal.natText n).map Char.toNat

def dayLength : ℕ := 86400000

/-- **A query for events**: the rows it joins, the order it sorts them in, and what becomes of one.
-/
structure SourceQuery where
  Row : Type
  rows : List Row
  /-- The first column of the order, and the second. -/
  rank : Row → ℤ
  tie : Row → ℕ
  event : Row → Option SourceEvent

def SourceQuery.before (q : SourceQuery) (a b : q.Row) : Prop :=
  q.rank a < q.rank b ∨ q.rank a = q.rank b ∧ q.tie a ≤ q.tie b
deriving Decidable

def SourceQuery.events (env : NotificationEnv) (q : SourceQuery) : List SourceEvent :=
  (limited q.before 100 (env.scan q.rows)).filterMap q.event

/-- `ORDER BY … DESC`. -/
def descending (at_ : Timestamp) : ℤ :=
  -(at_ : ℤ)

/-! ### The six queries -/

/-- What `stockEvents` joins. -/
structure StockRow where
  alert : StockAlert
  product : Product
  location : StockLocation
  warehouse : Warehouse

variable (s : Sources)

/-- The join of `stockEvents`. -/
def joinStock (alert : StockAlert) : Option StockRow := do
  let product ← (s.products.find? alert.productId).filter fun product ↦ product.active
  let location ← (s.locations.find? alert.locationId).filter fun location ↦ location.active
  let warehouse ← s.warehouses.find? location.warehouseId
  guard (alert.status = .LOW ∨ alert.status = .OUT_OF_STOCK)
  return { alert := alert, product := product, location := location, warehouse := warehouse }

/-- What `stockEvents` makes of a row. -/
def stockEvent (row : StockRow) : SourceEvent where
  eventType := .STOCK_LOW
  sourceKey := .stock row.alert.productId row.alert.locationId row.alert.status
    row.alert.transitionedAt
  title := textOf (if row.alert.status = .OUT_OF_STOCK then "Producto agotado" else "Stock bajo")
  body := row.product.name ++ textOf " (" ++ row.product.sku ++ textOf ") en " ++
    row.location.name ++ textOf ": " ++ toFixed 3 row.alert.availableQuantity ++
    textOf " disponible."
  severity := if row.alert.status = .OUT_OF_STOCK then .CRITICAL else .WARNING
  branchId := some row.warehouse.branchId
  occurredAt := row.alert.transitionedAt

def stockEvents : SourceQuery where
  Row := StockRow
  rows := s.stockAlerts.rows.filterMap (joinStock s)
  rank := fun row ↦ descending row.alert.transitionedAt
  tie := fun _ ↦ 0
  event := fun row ↦ some (stockEvent row)

/-- What `lotEvents` joins. -/
structure LotRow where
  balance : LotBalance
  lot : Lot
  expiresOn : Day
  product : Product
  location : StockLocation
  branch : Branch

/-- The join of `lotEvents`. -/
def joinLot (balance : LotBalance) : Option LotRow := do
  let lot ← s.lots.find? balance.lotId
  let product ← (s.products.find? lot.productId).filter fun product ↦ product.active
  let location ← (s.locations.find? balance.locationId).filter fun location ↦ location.active
  let warehouse ← s.warehouses.find? location.warehouseId
  let branch ← (s.branches.find? warehouse.branchId).filter fun branch ↦ branch.active
  guard (0 < balance.quantity)
  let expiresOn ← lot.expiresOn
  return {
    balance := balance, lot := lot, expiresOn := expiresOn, product := product
    location := location, branch := branch }

def LotRow.days (env : NotificationEnv) (now : Timestamp) (row : LotRow) : ℤ :=
  (row.expiresOn : ℤ) - env.inventoryLocalDate row.branch.timezone now

/-- What `lotEvents` makes of a row. -/
def lotEvent (env : NotificationEnv) (now : Timestamp) (row : LotRow) : Option SourceEvent :=
  if (row.product.lotExpirationAlertDays : ℤ) < row.days env now then none
  else some {
    eventType := .LOT_EXPIRING
    sourceKey := .lot row.balance.lotId row.balance.locationId row.expiresOn
    title := textOf (if row.days env now < 0 then "Lote vencido" else "Lote próximo a vencer")
    body := row.product.name ++ textOf " (" ++ row.product.sku ++ textOf "), lote " ++
      row.lot.code ++ textOf ", en " ++ row.location.name ++ textOf "; vence " ++
      env.dayText row.expiresOn ++ textOf "."
    severity := if row.days env now < 0 then .CRITICAL else .WARNING
    branchId := some row.branch.id
    occurredAt := env.inventoryLocalDate row.branch.timezone now * dayLength }

def lotEvents (env : NotificationEnv) (s : Sources) : SourceQuery where
  Row := LotRow
  rows := s.lotBalances.rows.filterMap (joinLot s)
  rank := fun row ↦ row.expiresOn
  tie := fun row ↦ row.lot.id
  event := lotEvent env s.now

def purchaseStatusText : Procurement.PurchaseOrderStatus → Text
  | .DRAFT => textOf "DRAFT"
  | .APPROVED => textOf "APPROVED"
  | .SENT => textOf "SENT"
  | .PARTIALLY_RECEIVED => textOf "PARTIALLY_RECEIVED"
  | .RECEIVED => textOf "RECEIVED"
  | .CANCELLED => textOf "CANCELLED"

/-- What `purchaseEvents` makes of a row. -/
def purchaseEvent (row : Purchase) : SourceEvent where
  eventType := .PURCHASE_PENDING
  sourceKey := .purchase row.id row.status row.updatedAt
  title := textOf "Compra pendiente de completar"
  body := textOf "La orden " ++ row.folio ++ textOf " continúa en estado " ++
    purchaseStatusText row.status ++ textOf "."
  severity := .INFO
  branchId := none
  occurredAt := row.updatedAt

def purchaseEvents : SourceQuery where
  Row := Purchase
  rows := s.purchases.rows.filter fun row ↦
    row.status = .APPROVED ∨ row.status = .SENT ∨ row.status = .PARTIALLY_RECEIVED
  rank := fun row ↦ descending row.updatedAt
  tie := fun _ ↦ 0
  event := fun row ↦ some (purchaseEvent row)

/-- What `cashEvents` joins. -/
structure CashRow where
  shift : Shift
  register : Register
  difference : ℤ
  closedAt : Timestamp

/-- The join of `cashEvents`. -/
def joinCash (shift : Shift) : Option CashRow := do
  let register ← s.registers.find? shift.cashRegisterId
  let closure ← shift.closure
  let difference ← closure.differenceAtClose
  guard (difference ≠ 0)
  return {
    shift := shift, register := register, difference := difference, closedAt := closure.closedAt }

/-- What `cashEvents` makes of a row. -/
def cashEvent (row : CashRow) : SourceEvent where
  eventType := .CASH_DIFFERENCE
  sourceKey := .cash row.shift.id row.closedAt
  title := textOf "Diferencia en cierre de caja"
  body := textOf "La caja " ++ row.register.code ++ textOf " cerró con diferencia " ++
    toFixed 2 row.difference ++ textOf " " ++ row.shift.currency ++ textOf "."
  severity := .WARNING
  branchId := some row.shift.branchId
  occurredAt := row.closedAt

def cashEvents : SourceQuery where
  Row := CashRow
  rows := s.shifts.rows.filterMap (joinCash s)
  rank := fun row ↦ descending row.closedAt
  tie := fun _ ↦ 0
  event := fun row ↦ some (cashEvent row)

/-- What `syncEvents` makes of a row. -/
def syncEvent (row : OfflineCommand) : SourceEvent where
  eventType := .SYNC_FAILED
  sourceKey := .sync row.commandId
  title := textOf "Operación offline requiere atención"
  body := textOf "Una operación " ++ row.kind ++
    textOf " no pudo sincronizarse. Revisa conflictos y reintentos pendientes."
  severity := .WARNING
  branchId := none
  occurredAt := row.completedAt.getD row.receivedAt

def syncEvents : SourceQuery where
  Row := OfflineCommand
  rows := s.offlineCommands.rows.filter fun row ↦
    row.status = .ERROR ∧ s.now ≤ row.receivedAt + 7 * dayLength
  rank := fun row ↦ descending row.receivedAt
  tie := fun _ ↦ 0
  event := fun row ↦ some (syncEvent row)

/-- What `operationEvents` unites. -/
structure OperationRow where
  sourceType : OperationType
  sourceId : Uuid
  errorCode : Option Text
  occurredAt : Timestamp

def failedExport (row : DataExport) : Option OperationRow :=
  if row.status = .FAILED ∧ s.now ≤ row.updatedAt + 7 * dayLength then
    some ⟨.DATA_EXPORT, row.id, row.errorCode, row.updatedAt⟩
  else none

def failedFulfillment (row : OrderFulfillment) : Option OperationRow :=
  if row.status = .RETRYABLE_FAILURE ∧ s.now ≤ row.updatedAt + 7 * dayLength then
    some ⟨.ORDER_FULFILLMENT, row.orderId, row.lastErrorCode, row.updatedAt⟩
  else none

def operationText : OperationType → Text
  | .DATA_EXPORT => textOf "DATA_EXPORT"
  | .ORDER_FULFILLMENT => textOf "ORDER_FULFILLMENT"

/-- What `operationEvents` makes of a row. -/
def operationEvent (row : OperationRow) : SourceEvent where
  eventType := .OPERATION_FAILED
  sourceKey := .operation row.sourceType row.sourceId row.occurredAt
  title := textOf "Proceso operativo con fallo reintentable"
  body := operationText row.sourceType ++ textOf " requiere atención" ++
    ((row.errorCode.filter fun code ↦ code ≠ []).elim []
      fun code ↦ textOf " (" ++ code ++ textOf ")") ++ textOf "."
  severity := .WARNING
  branchId := none
  occurredAt := row.occurredAt

def operationEvents : SourceQuery where
  Row := OperationRow
  rows := s.dataExports.rows.filterMap (failedExport s) ++
    s.fulfillments.rows.filterMap (failedFulfillment s)
  rank := fun row ↦ descending row.occurredAt
  tie := fun _ ↦ 0
  event := fun row ↦ some (operationEvent row)

def sourceQueries (env : NotificationEnv) (s : Sources) : List SourceQuery :=
  [stockEvents s, lotEvents env s, purchaseEvents s, cashEvents s, syncEvents s, operationEvents s]

def listSourceEvents (env : NotificationEnv) (s : Sources) : List SourceEvent :=
  (sourceQueries env s).flatMap (SourceQuery.events env)

end UInventario.Notifications
