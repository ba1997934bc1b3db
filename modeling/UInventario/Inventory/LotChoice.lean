import UInventario.Inventory.Journal

/-!
# What the lot of a request decides

A manual movement of a product that is tracked by lots enters the lot that its request names, or
leaves that one, or those that expire first. Two requests decide the same exactly when their codes
are stored alike and, for an entry, their dates are the same; a lot that is created keeps its code
as it was written. `enterLot_eq_iff` and `exitLots_eq_iff` say this of the books.
-/

namespace UInventario

open Outcome Table List Option

/-! ### Codes -/

/-- The lot code as `normalizeLotCode` writes it. -/
def LotOptions.code (options : LotOptions) : Option Text :=
  options.lotCode.bind fun value ↦ (normalizeLotCode value).toOption

def LotBook.hasLot (book : LotBook) (productId : Uuid) (normalizedCode : Text) : Prop :=
  ∃ lot ∈ book.lots.rows, lot.productId = productId ∧ lot.normalizedCode = normalizedCode

/-- **Two entries name one lot.** -/
structure SameEntry (env : Env) (book : LotBook) (productId : Uuid) (o o' : LotOptions) : Prop where
  code : ∃ c c', o.code = some c ∧ o'.code = some c' ∧ env.toUpperCase c = env.toUpperCase c' ∧
    (c = c' ∨ book.hasLot productId (env.toUpperCase c))
  manufacturedOn : o.manufacturedOn = o'.manufacturedOn
  expiresOn : o.expiresOn = o'.expiresOn

/-- **Two exits draw from the same lots**: one that both name, or those that expire first. -/
def SameExit (env : Env) (o o' : LotOptions) : Prop :=
  o.lotCode = none ∧ o'.lotCode = none ∨
    ∃ c c', o.code = some c ∧ o'.code = some c' ∧ env.toUpperCase c = env.toUpperCase c'

variable {options : LotOptions}

theorem LotOptions.code_eq_some {c : Text} : options.code = some c ↔
      ∃ value, options.lotCode = some value ∧ normalizeLotCode value = .ok c := by
  rw [LotOptions.code, bind_eq_some_iff]
  refine exists_congr fun value ↦ and_congr_right fun _ ↦ ?_
  cases normalizeLotCode value with
  | error e => exact ⟨nofun, nofun⟩
  | ok c' =>
    exact ⟨fun h ↦ congrArg Except.ok (Option.some.inj h),
      fun h ↦ congrArg some (Except.ok.inj h)⟩

/-! ### One allocation -/

variable {env : Env} {movement : Movement} {product : Product} {book book' : LotBook}
  {costSource : Option LotCostSource} {mode : SelectionMode} {allowExpired : Bool} {lotId : Uuid}
  {input : LotInput} {s' : Store} {s t : Store} {n : NewMovement} {o' o : LotOptions}
  {row : Movement}

/-- **An allocation** is one row at the end, and changes of a lot its cost alone. -/
theorem changeLotBalance_writes {quantityChange : ℤ}
    (h : changeLotBalance env movement book lotId quantityChange mode costSource = .ok book') :
    (∃ a : MovementLot, a.lotId = lotId ∧ a.mode = mode ∧
      book'.movementLots.rows = book.movementLots.rows ++ [a]) ∧
    ∀ id, (book'.lots.find? id).map (fun l ↦ { l with unitCost := 0 }) =
      (book.lots.find? id).map fun l ↦ { l with unitCost := 0 } := by
  simp only [changeLotBalance, eq_ok] at h
  obtain ⟨lot, -, -, -, balance, -, -, -, -, -, -, -, -, -, movementLots, hinsert, rfl⟩ := h
  rw [LotBook.movementLots_ensureBalance] at hinsert
  have hlots : (book.ensureBalance lotId movement.locationId).lots = book.lots := by
    rw [LotBook.ensureBalance]
    split <;> rfl
  refine ⟨⟨_, rfl, rfl, (insert_eq_some hinsert).2⟩, fun id ↦ ?_⟩
  rw [find?_update, Option.map_map, hlots]
  congr 1
  funext l
  by_cases hid : id = lotId <;> simp [hid]

/-! ### Entries -/

/-- **The lot of an entry** has the code and the dates of the entry, and its spelling when it is
new. -/
theorem findOrCreateLot_eq_ok (h : findOrCreateLot env book product input = .ok (book', lotId)) :
    ∃ c lot, normalizeLotCode input.rawCode = .ok c ∧ book'.lots.find? lotId = some lot ∧
      lot.normalizedCode = env.toUpperCase c ∧ lot.manufacturedOn = input.manufacturedOn ∧
      lot.expiresOn = input.expiresOn ∧
      (lot.code = c ∨ book.hasLot product.id (env.toUpperCase c)) := by
  simp only [findOrCreateLot, eq_ok] at h
  obtain ⟨c, hc, -, -, -, -, -, -, -, -, h⟩ := h
  split at h
  case h_1 existing hexisting =>
    simp only [eq_ok, Prod.mk.injEq] at h
    obtain ⟨-, -, _, ⟨hmanufactured, hexpires⟩, rfl, rfl⟩ := h
    have hmem := mem_of_find?_eq_some hexisting
    have hnamed : existing.productId = product.id ∧
        existing.normalizedCode = env.toUpperCase c := by
      simpa using find?_some hexisting
    exact ⟨c, existing, hc, find?_key_of_mem hmem, hnamed.2, hmanufactured, hexpires,
      .inr ⟨existing, hmem, hnamed⟩⟩
  case h_2 =>
    simp only [eq_ok, Prod.mk.injEq] at h
    obtain ⟨lots, hinsert, rfl, rfl⟩ := h
    exact ⟨c, _, hc, find?_insert_self hinsert, rfl, rfl, rfl, .inl rfl⟩

/-- **An entry** is an allocation to the lot that it names. -/
theorem enterLot_eq_ok (h : enterLot s movement product options = .ok s') :
    ∃ c lotId lot, options.code = some c ∧ (∃ a : MovementLot, a.lotId = lotId ∧
        s'.lots.movementLots.rows = s.lots.movementLots.rows ++ [a]) ∧
      s'.lots.lots.find? lotId = some lot ∧ lot.normalizedCode = s.env.toUpperCase c ∧
      lot.manufacturedOn = options.manufacturedOn ∧ lot.expiresOn = options.expiresOn ∧
      (lot.code = c ∨ s.lots.hasLot product.id (s.env.toUpperCase c)) := by
  simp only [enterLot, eq_ok] at h
  obtain ⟨value, hvalue, cost, -, ⟨book₁, lotId⟩, hfound, book₂, hchange, rfl⟩ := h
  obtain ⟨c, lot, hc, hlot, hcode, hmanufactured, hexpires, hspelled⟩ :=
    findOrCreateLot_eq_ok hfound
  obtain ⟨⟨a, ha, -, hrows⟩, hlots⟩ := changeLotBalance_writes hchange
  rw [findOrCreateLot_movementLots hfound] at hrows
  have hafter := hlots lotId
  rw [hlot, map_some] at hafter
  obtain ⟨lot', hlot', hsame⟩ := map_eq_some_iff.mp hafter
  refine ⟨c, lotId, lot', LotOptions.code_eq_some.mpr ⟨value, hvalue, hc⟩, ⟨a, ha, hrows⟩, hlot',
    ?_, ?_, ?_, ?_⟩
  · exact (congrArg Lot.normalizedCode hsame :).trans hcode
  · exact (congrArg Lot.manufacturedOn hsame :).trans hmanufactured
  · exact (congrArg Lot.expiresOn hsame :).trans hexpires
  · exact hspelled.imp_left (congrArg Lot.code hsame :).trans

theorem findOrCreateLot_congr {input' : LotInput} {c c' : Text}
    (hc : normalizeLotCode input.rawCode = .ok c) (hc' : normalizeLotCode input'.rawCode = .ok c')
    (hsame : env.toUpperCase c = env.toUpperCase c')
    (hspelled : c = c' ∨ book.hasLot product.id (env.toUpperCase c))
    (hcost : input.unitCost = input'.unitCost) (hcurrency : input.currency = input'.currency)
    (hmanufactured : input.manufacturedOn = input'.manufacturedOn)
    (hexpires : input.expiresOn = input'.expiresOn) :
    findOrCreateLot env book product input = findOrCreateLot env book product input' := by
  rw [findOrCreateLot, findOrCreateLot, hc, hc', ok_bind, ok_bind, hcost, hcurrency, hmanufactured,
    hexpires, hsame]
  rcases hspelled with rfl | ⟨lot, hlot, hnamed⟩
  · rfl
  · rw [hsame] at hnamed
    cases hfound : book.lots.rows.find? fun l ↦
        l.productId = product.id ∧ l.normalizedCode = env.toUpperCase c' with
    | none => exact absurd (by simpa using hnamed) (List.find?_eq_none.mp hfound lot hlot)
    | some existing => simp only [hfound]

theorem enterLot_congr (h : SameEntry s.env s.lots product.id o o') :
    enterLot s movement product o = enterLot s movement product o' := by
  obtain ⟨c, c', hcode, hcode', hsame, hspelled⟩ := h.code
  obtain ⟨value, hvalue, hc⟩ := LotOptions.code_eq_some.mp hcode
  obtain ⟨value', hvalue', hc'⟩ := LotOptions.code_eq_some.mp hcode'
  rw [enterLot, enterLot, hvalue, hvalue']
  cases movement.unitCost with
  | none => rfl
  | some unitCost =>
    have hfound : findOrCreateLot s.env s.lots product {
        rawCode := value, unitCost := unitCost, currency := tenantCurrency s.env.country,
        manufacturedOn := o.manufacturedOn,
        expiresOn := o.expiresOn } = findOrCreateLot s.env s.lots product {
        rawCode := value'
        unitCost := unitCost
        currency := tenantCurrency s.env.country
        manufacturedOn := o'.manufacturedOn
        expiresOn := o'.expiresOn } :=
      findOrCreateLot_congr hc hc' hsame hspelled rfl rfl h.manufacturedOn h.expiresOn
    show (findOrCreateLot s.env s.lots product _ >>= _) =
      (findOrCreateLot s.env s.lots product _ >>= _)
    rw [hfound]

/-- **Two entries** leave the same lots exactly when they name one lot. -/
theorem enterLot_eq_iff {t' : Store}
    (h : enterLot s movement product o = .ok t) (h' : enterLot s movement product o' = .ok t') :
    t.lots = t'.lots ↔ SameEntry s.env s.lots product.id o o' := by
  constructor
  · intro hlots
    obtain ⟨c, lotId, lot, hcode, ⟨a, ha, hrows⟩, hlot, hnormalized, hmanufactured, hexpires,
      hspelled⟩ := enterLot_eq_ok h
    obtain ⟨c', lotId', lot', hcode', ⟨a', ha', hrows'⟩, hlot', hnormalized', hmanufactured',
      hexpires', hspelled'⟩ := enterLot_eq_ok h'
    rw [hlots, hrows'] at hrows
    have hallocation : a' = a := singleton_inj.mp (append_cancel_left hrows)
    have hid : lotId = lotId' := by rw [← ha, ← ha', hallocation]
    rw [hlots, hid, hlot'] at hlot
    cases hlot
    have hsame := hnormalized.symm.trans hnormalized'
    refine ⟨⟨c, c', hcode, hcode', hsame, ?_⟩, hmanufactured.symm.trans hmanufactured',
      hexpires.symm.trans hexpires'⟩
    rcases hspelled with hspelled | hthere
    · rcases hspelled' with hspelled' | hthere
      · exact .inl (hspelled.symm.trans hspelled')
      · exact .inr (hsame ▸ hthere)
    · exact .inr hthere
  · intro hsame
    rw [enterLot_congr hsame, h'] at h
    exact congrArg Store.lots (Except.ok.inj h).symm

/-! ### Exits -/

/-- **What an exit that succeeds writes**: allocations in the mode of its selection, to lots that
were selected. -/
theorem consumeLots_writes {quantity : ℤ} {preferredLotId : Option Uuid}
    {preferredLotCode : Option Text}
    (h : consumeLots s movement quantity preferredLotId preferredLotCode costSource allowExpired =
      .ok book') (hquantity : quantity ≠ 0) :
    ∃ stock mode a new, selectLots s movement preferredLotId preferredLotCode allowExpired =
      .ok (stock, mode) ∧ book'.movementLots.rows = s.lots.movementLots.rows ++ a :: new ∧
      a.mode = mode ∧ ∃ x ∈ stock, a.lotId = x.lot.id := by
  simp only [consumeLots, eq_ok] at h
  obtain ⟨⟨stock, mode⟩, hselect, p, hp, -, hdone, rfl⟩ := h
  have hloop : (p.remaining = quantity ∧ p.book.movementLots = s.lots.movementLots) ∨
      ∃ a new, p.book.movementLots.rows = s.lots.movementLots.rows ++ a :: new ∧
        a.mode = mode ∧ ∃ x ∈ stock, a.lotId = x.lot.id := by
    refine foldlM_invariant (P := fun p : LotProgress ↦
      (p.remaining = quantity ∧ p.book.movementLots = s.lots.movementLots) ∨
        ∃ a new, p.book.movementLots.rows = s.lots.movementLots.rows ++ a :: new ∧
          a.mode = mode ∧ ∃ x ∈ stock, a.lotId = x.lot.id)
      (fun x hx p p' hinv hstep ↦ ?_) (.inl ⟨rfl, rfl⟩) hp
    rw [consumeLot] at hstep
    split at hstep
    · exact pure_eq_ok.mp hstep ▸ hinv
    · dsimp only at hstep
      split at hstep
      · exact pure_eq_ok.mp hstep ▸ hinv
      · obtain ⟨b, hb, hstep⟩ := bind_eq_ok.mp hstep
        obtain rfl := pure_eq_ok.mp hstep
        obtain ⟨⟨a, ha, hmode, hrows⟩, -⟩ := changeLotBalance_writes hb
        rcases hinv with ⟨-, hsame⟩ | ⟨a₀, new, hrows₀, hmode₀, x₀, hx₀, ha₀⟩
        · refine .inr ⟨a, [], ?_, hmode, x, hx, ha⟩
          rw [hrows, hsame]
        · refine .inr ⟨a₀, new ++ [a], ?_, hmode₀, x₀, hx₀, ha₀⟩
          rw [hrows, hrows₀, append_assoc, cons_append]
  rcases hloop with ⟨hnothing, -⟩ | ⟨a, new, hrows, hmode, hx⟩
  · exact absurd (hnothing.symm.trans hdone) hquantity
  · exact ⟨stock, mode, a, new, hselect, hrows, hmode, hx⟩

theorem selectLots_eq_ok {code : Option Text} {stock : List LotStock}
    (h : selectLots s movement none code allowExpired = .ok (stock, mode)) :
    (code = none ∧ mode = .AUTOMATIC) ∨ ∃ value c, code = some value ∧
      normalizeLotCode value = .ok c ∧ mode = .MANUAL ∧ ∀ x ∈ stock,
        s.lots.lots.find? x.lot.id = some x.lot ∧ x.lot.normalizedCode = s.env.toUpperCase c := by
  cases code with
  | none =>
    simp only [selectLots, pure_eq_ok, Prod.mk.injEq] at h
    exact .inl ⟨rfl, h.2.symm⟩
  | some value =>
    simp only [selectLots, getD_some, eq_ok, Prod.mk.injEq] at h
    obtain ⟨c, hc, _, rfl, first, -, -, -, rfl, rfl⟩ := h
    refine .inr ⟨value, c, rfl, hc, rfl, fun x hx ↦ ?_⟩
    obtain ⟨b, hb, hx⟩ := mem_filterMap.mp hx
    cases hlot : s.lots.lots.find? b.lotId with
    | none =>
      rw [hlot] at hx
      cases hx
    | some lot =>
      rw [hlot] at hx
      dsimp only at hx
      split at hx
      case isTrue hnamed =>
        cases hx
        have hid : lot.id = b.lotId := key_of_find? hlot
        exact ⟨hid ▸ hlot, of_decide_eq_true hnamed.2.2⟩
      case isFalse => cases hx

/-- **An exit** of a request. -/
theorem exitLots_eq_ok
    (htype : movement.type ≠ .SUPPLIER_RETURN) (hquantity : movement.quantityChange ≠ 0)
    (hpreferred : options.preferredLotId = none) (h : exitLots s movement options = .ok s') :
    ∃ a new, s'.lots.movementLots.rows = s.lots.movementLots.rows ++ a :: new ∧
      ((options.lotCode = none ∧ a.mode = .AUTOMATIC) ∨ ∃ c lot, options.code = some c ∧
        a.mode = .MANUAL ∧ s.lots.lots.find? a.lotId = some lot ∧
        lot.normalizedCode = s.env.toUpperCase c) := by
  rw [exitLots, if_neg htype, hpreferred] at h
  simp only [eq_ok] at h
  obtain ⟨book, hconsume, rfl⟩ := h
  obtain ⟨stock, mode, a, new, hselect, hrows, hmode, x, hx, ha⟩ :=
    consumeLots_writes hconsume (neg_ne_zero.mpr hquantity)
  refine ⟨a, new, hrows, ?_⟩
  rcases selectLots_eq_ok hselect with ⟨hnone, hauto⟩ | ⟨value, c, hvalue, hc, hmanual, hstock⟩
  · exact .inl ⟨hnone, hmode.trans hauto⟩
  · obtain ⟨hlot, hnamed⟩ := hstock x hx
    refine .inr ⟨c, x.lot, LotOptions.code_eq_some.mpr ⟨value, hvalue, hc⟩,
      hmode.trans hmanual, ?_, hnamed⟩
    rw [ha]
    exact hlot

section

variable {o o' : LotOptions} (hpreferred : o.preferredLotId = none)
  (hpreferred' : o'.preferredLotId = none) (hexpired : o.allowExpired = o'.allowExpired)
  (htype : movement.type ≠ .SUPPLIER_RETURN)
include hpreferred hpreferred' hexpired htype

theorem exitLots_congr (h : SameExit s.env o o') :
    exitLots s movement o = exitLots s movement o' := by
  rw [exitLots, exitLots, if_neg htype, if_neg htype, hpreferred, hpreferred', hexpired]
  rcases h with ⟨hnone, hnone'⟩ | ⟨c, c', hcode, hcode', hsame⟩
  · rw [hnone, hnone']
  · obtain ⟨value, hvalue, hc⟩ := LotOptions.code_eq_some.mp hcode
    obtain ⟨value', hvalue', hc'⟩ := LotOptions.code_eq_some.mp hcode'
    have hselect : selectLots s movement none (some value) o'.allowExpired =
        selectLots s movement none (some value') o'.allowExpired := by
      simp only [selectLots, getD_some, hc, hc', ok_bind, hsame]
    rw [hvalue, hvalue', consumeLots, consumeLots, hselect]

/-- **Two exits** leave the same lots exactly when they draw from the same. -/
theorem exitLots_eq_iff {t' : Store} (hquantity : movement.quantityChange ≠ 0)
    (h : exitLots s movement o = .ok t) (h' : exitLots s movement o' = .ok t') :
    t.lots = t'.lots ↔ SameExit s.env o o' := by
  constructor
  · intro hlots
    obtain ⟨a, new, hrows, hchoice⟩ := exitLots_eq_ok htype hquantity hpreferred h
    obtain ⟨a', new', hrows', hchoice'⟩ := exitLots_eq_ok htype hquantity hpreferred' h'
    rw [hlots, hrows'] at hrows
    obtain ⟨rfl, -⟩ := List.cons.inj (append_cancel_left hrows)
    rcases hchoice with ⟨hnone, hauto⟩ | ⟨c, lot, hcode, hmanual, hlot, hnamed⟩
    · rcases hchoice' with ⟨hnone', -⟩ | ⟨-, -, -, hmanual', -⟩
      · exact .inl ⟨hnone, hnone'⟩
      · exact absurd (hauto.symm.trans hmanual') nofun
    · rcases hchoice' with ⟨-, hauto'⟩ | ⟨c', lot', hcode', -, hlot', hnamed'⟩
      · exact absurd (hauto'.symm.trans hmanual) nofun
      · cases hlot.symm.trans hlot'
        exact .inr ⟨c, c', hcode, hcode', hnamed.symm.trans hnamed'⟩
  · intro hsame
    rw [exitLots_congr hpreferred hpreferred' hexpired htype hsame, h'] at h
    exact congrArg Store.lots (Except.ok.inj h).symm

end

/-! ### Postings -/

def MovementType.isManual (type : MovementType) : Bool :=
  type ∈ [.INITIAL, .ENTRY, .EXIT, .RETURN, .LOSS, .DAMAGE, .ADJUSTMENT]

def Store.allocates (s : Store) (productId : Uuid) : Prop :=
  (∃ product, s.products.find? productId = some product ∧ product.trackLots = true) ∧
    ∀ a ∈ s.lots.movementLots.rows, a.movementId ≠ s.freshMovementId

/-- **The lot options of two movements decide the same.** -/
structure SameLots (s : Store) (productId : Uuid) (quantityChange : ℤ) (o o' : LotOptions) :
    Prop where
  entry : s.allocates productId → 0 < quantityChange → SameEntry s.env s.lots productId o o'
  exit : s.allocates productId → quantityChange < 0 → SameExit s.env o o'

theorem postMovement_eq (s : Store) (n : NewMovement) (tracking : Tracking) :
    postMovement s n tracking = postMovement s n {} >>= fun t ↦
      trackLots t s.freshMovementId tracking.lots >>= fun t ↦
        trackSerials t s.freshMovementId tracking.serials := by
  show (insertMovement s (n.toMovement s) >>= _) = (insertMovement s (n.toMovement s) >>= _) >>= _
  cases insertMovement s (n.toMovement s) with
  | error e => rfl
  | ok s₁ =>
    show (applyInventoryValuation s₁ s.freshMovementId >>= _) =
      (applyInventoryValuation s₁ s.freshMovementId >>= _) >>= _
    cases applyInventoryValuation s₁ s.freshMovementId with
    | error e | ok s₂ => rfl

/-- **What the two passes find**: the row, its product, and the lots as they were. -/
structure Tracked (s t : Store) (n : NewMovement) (row : Movement) : Prop where
  id : row.id = s.freshMovementId
  type : row.type = n.type
  quantityChange : row.quantityChange = n.quantityChange
  env : t.env = s.env
  lots : t.lots = s.lots
  find? : t.movements.find? s.freshMovementId = some row
  product : ∃ f : Product → Product, (∀ p, (f p).trackLots = p.trackLots) ∧
    trackedMovement t s.freshMovementId =
      (s.products.find? n.productId).map (fun product ↦ (row, f product)) ∧
    ∀ product, s.products.find? n.productId = some product → (f product).id = n.productId

theorem tracked_posted (h : postMovement s n {} = .ok t) : ∃ row, Tracked s t n row := by
  obtain ⟨p⟩ := postMovement_eq_ok h
  have hlots : t.lots = s.lots := by
    rcases p.lots_cases with ⟨hsame, -⟩ | ⟨_, _, _, hnone, -⟩
    · exact hsame
    · exact absurd hnone nofun
  refine ⟨p.row, p.row_id, congrArg Movement.type p.static_row, p.row_quantityChange,
    (congrArg Store.env p.store_eq :), hlots, p.find?_row, ?_⟩
  have htracked : trackedMovement t s.freshMovementId =
      (t.products.find? n.productId).map fun product ↦ (p.row, product) := by
    rw [trackedMovement, p.find?_row, bind_some, p.row_productId]
  have hkey : ∀ product, s.products.find? n.productId = some product →
      product.id = n.productId := fun product h ↦ key_of_find? h
  rw [htracked, p.products_eq]
  split
  · generalize catalogCost _ = cost
    refine ⟨Product.recosted cost, fun product ↦ ?_, ?_, fun product hproduct ↦ ?_⟩
    · rw [Product.recosted]
      split <;> rfl
    · rw [find?_update_self, Option.map_map]
      rfl
    · rw [Product.recosted_id, hkey product hproduct]
  · exact ⟨fun product ↦ product, fun _ ↦ rfl, rfl, hkey⟩

theorem moveLots_manual (htype : movement.type.isManual = true) :
    moveLots s movement product options =
      if 0 < movement.quantityChange then enterLot s movement product options
      else exitLots s movement options := by
  rw [moveLots]
  revert htype
  cases movement.type <;> intro htype <;> first | rfl | cases htype

namespace Tracked

variable {s t : Store} {n : NewMovement} {row : Movement}

theorem moves (h : Tracked s t n row) (htype : n.type.isManual = true)
    (hquantity : n.quantityChange ≠ 0) (hallocates : s.allocates n.productId) :
    ∃ product : Product, product.id = n.productId ∧ ∀ o,
      applyInventoryLotTracking t s.freshMovementId o =
        (if 0 < n.quantityChange then enterLot t row product o else exitLots t row o) >>= fun u ↦
          finalizeSpecificLotMovementValuation u s.freshMovementId := by
  obtain ⟨⟨product, hproduct, htrack⟩, hnew⟩ := hallocates
  obtain ⟨f, hsame, htracked, hid⟩ := h.product
  rw [hproduct, map_some] at htracked
  refine ⟨f product, hid product hproduct, fun o ↦ ?_⟩
  rw [applyInventoryLotTracking, htracked]
  dsimp only
  rw [if_neg, moveLots_manual (h.type ▸ htype), h.quantityChange]
  rintro (hnot | ⟨a, ha, howned⟩ | hzero)
  · rw [hsame, htrack] at hnot
    cases hnot
  · rw [h.lots] at ha
    exact hnew a ha (howned.trans h.id)
  · exact hquantity (h.quantityChange.symm.trans hzero)

theorem stays (h : Tracked s t n row) (hallocates : ¬s.allocates n.productId) (o o' : LotOptions) :
    applyInventoryLotTracking t s.freshMovementId o =
      applyInventoryLotTracking t s.freshMovementId o' := by
  obtain ⟨f, hsame, htracked, -⟩ := h.product
  rw [applyInventoryLotTracking, applyInventoryLotTracking, htracked]
  cases hproduct : s.products.find? n.productId with
  | none => rfl
  | some product =>
    rw [map_some]
    dsimp only
    have hguard : (f product).trackLots = false ∨
        (∃ a ∈ t.lots.movementLots.rows, a.movementId = row.id) ∨ row.quantityChange = 0 := by
      by_contra hnot
      obtain ⟨htrack, hnot⟩ := not_or.mp hnot
      obtain ⟨hnew, -⟩ := not_or.mp hnot
      refine hallocates ⟨⟨product, hproduct, ?_⟩, fun a ha howned ↦ hnew ⟨a, ?_, ?_⟩⟩
      · rw [← hsame]
        exact eq_true_of_ne_false htrack
      · rw [h.lots]
        exact ha
      · exact howned.trans h.id.symm
    rw [if_pos hguard, if_pos hguard]

theorem ne_supplierReturn (h : Tracked s t n row) (htype : n.type.isManual = true) :
    row.type ≠ .SUPPLIER_RETURN := by
  rw [h.type]
  rintro hreturn
  rw [hreturn] at htype
  cases htype

theorem sameLots_congr (h : Tracked s t n row) (htype : n.type.isManual = true)
    (hquantity : n.quantityChange ≠ 0) (hpreferred : o.preferredLotId = none)
    (hpreferred' : o'.preferredLotId = none) (hexpired : o.allowExpired = o'.allowExpired)
    (hsame : SameLots s n.productId n.quantityChange o o') :
    applyInventoryLotTracking t s.freshMovementId o =
      applyInventoryLotTracking t s.freshMovementId o' := by
  by_cases hallocates : s.allocates n.productId
  · obtain ⟨product, hid, hmoves⟩ := h.moves htype hquantity hallocates
    rw [hmoves, hmoves]
    by_cases hentry : 0 < n.quantityChange
    · have hsameEntry : SameEntry t.env t.lots product.id o o' := by
        rw [h.env, h.lots, hid]
        exact hsame.entry hallocates hentry
      rw [if_pos hentry, if_pos hentry, enterLot_congr hsameEntry]
    · have hsameExit : SameExit t.env o o' := by
        rw [h.env]
        exact hsame.exit hallocates (by omega)
      rw [if_neg hentry, if_neg hentry, exitLots_congr hpreferred hpreferred' hexpired
        (h.ne_supplierReturn htype) hsameExit]
  · exact h.stays hallocates o o'

end Tracked

theorem lots_finalize (hfind : s.movements.find? movement.id = some movement)
    (h : finalizeSpecificLotMovementValuation s movement.id = .ok s') : s'.lots = s.lots := by
  rcases finalizeSpecificLotMovementValuation_eq_ok hfind h with ⟨-, rfl⟩ | ⟨-, -, _, _, rfl⟩
  · rfl
  · rfl

/-- **The lots that two passes leave** are the same exactly when their options decide the same. -/
theorem Tracked.lots_iff {t₁ t₂ : Store} (h : Tracked s t n row) (htype : n.type.isManual = true)
    (hquantity : n.quantityChange ≠ 0) (hpreferred : o.preferredLotId = none)
    (hpreferred' : o'.preferredLotId = none) (hexpired : o.allowExpired = o'.allowExpired)
    (h₁ : applyInventoryLotTracking t s.freshMovementId o = .ok t₁)
    (h₂ : applyInventoryLotTracking t s.freshMovementId o' = .ok t₂) :
    t₁.lots = t₂.lots ↔ SameLots s n.productId n.quantityChange o o' := by
  by_cases hallocates : s.allocates n.productId
  · obtain ⟨product, hid, hmoves⟩ := h.moves htype hquantity hallocates
    rw [hmoves] at h₁ h₂
    obtain ⟨u₁, hu₁, hfinal₁⟩ := bind_eq_ok.mp h₁
    obtain ⟨u₂, hu₂, hfinal₂⟩ := bind_eq_ok.mp h₂
    have hkeeps : ∀ {o : LotOptions} {u t' : Store},
        (if 0 < n.quantityChange then enterLot t row product o else exitLots t row o) = .ok u →
          finalizeSpecificLotMovementValuation u s.freshMovementId = .ok t' → t'.lots = u.lots := by
      intro o u t' hu hfinal
      rw [← h.quantityChange, ← moveLots_manual (h.type ▸ htype)] at hu
      have hmovements : u.movements = t.movements :=
        (congrArg Store.movements (moveLots_sameButLots hu).store_eq :)
      rw [← h.id] at hfinal
      have hfind : u.movements.find? row.id = some row := by
        rw [hmovements, h.id]
        exact h.find?
      exact lots_finalize hfind hfinal
    rw [hkeeps hu₁ hfinal₁, hkeeps hu₂ hfinal₂]
    by_cases hentry : 0 < n.quantityChange
    · rw [if_pos hentry] at hu₁ hu₂
      rw [enterLot_eq_iff hu₁ hu₂, h.env, h.lots, hid]
      exact ⟨fun hsame ↦ ⟨fun _ _ ↦ hsame, fun _ hexit ↦ absurd hentry (by omega)⟩,
        fun hsame ↦ hsame.entry hallocates hentry⟩
    · rw [if_neg hentry] at hu₁ hu₂
      rw [exitLots_eq_iff hpreferred hpreferred' hexpired (h.ne_supplierReturn htype)
        (h.quantityChange ▸ hquantity) hu₁ hu₂, h.env]
      exact ⟨fun hsame ↦ ⟨fun _ h ↦ absurd h hentry, fun _ _ ↦ hsame⟩,
        fun hsame ↦ hsame.exit hallocates (by omega)⟩
  · refine iff_of_true ?_ ⟨fun h ↦ absurd h hallocates, fun h ↦ absurd h hallocates⟩
    rw [h.stays hallocates o o', h₂] at h₁
    exact congrArg Store.lots (Except.ok.inj h₁).symm

/-! ### The lots of a posting -/

theorem applyInventorySerialTracking_congr {id : Uuid}
    (hfind : t.movements.find? id = some row) (hreceipt : row.type ≠ .TRANSFER_RECEIPT)
    (hdiscrepancy : row.type ≠ .TRANSFER_DISCREPANCY) {o o' : SerialOptions}
    (hdestination : o.destinationLocationId = o'.destinationLocationId)
    (hserials : o.serialNumbers.getD [] = o'.serialNumbers.getD []) :
    applyInventorySerialTracking t id o = applyInventorySerialTracking t id o' := by
  have hmovement : movementSerials t row o = movementSerials t row o' := by
    rw [movementSerials, movementSerials]
    revert hreceipt hdiscrepancy
    cases row.type <;> intro hreceipt hdiscrepancy <;>
      first | exact hserials | rfl | exact absurd rfl hreceipt | exact absurd rfl hdiscrepancy
  rw [applyInventorySerialTracking, applyInventorySerialTracking, trackedMovement, hfind,
    bind_some]
  cases t.products.find? row.productId with
  | none => rfl
  | some product =>
    rw [map_some]
    dsimp only
    rw [hmovement, hdestination]

/-- **Postings of one movement** are the same when their tracking decides the same. -/
theorem postMovement_congr {x x' : SerialOptions}
    (hreceipt : n.type ≠ .TRANSFER_RECEIPT) (hdiscrepancy : n.type ≠ .TRANSFER_DISCREPANCY)
    (hlots : ∀ t, postMovement s n {} = .ok t → applyInventoryLotTracking t s.freshMovementId o =
        applyInventoryLotTracking t s.freshMovementId o')
    (hdestination : x.destinationLocationId = x'.destinationLocationId)
    (hserials : x.serialNumbers.getD [] = x'.serialNumbers.getD []) :
    postMovement s n { lots := some o, serials := some x } =
      postMovement s n { lots := some o', serials := some x' } := by
  rw [postMovement_eq s n { lots := some o, serials := some x },
    postMovement_eq s n { lots := some o', serials := some x' }]
  cases hposted : postMovement s n {} with
  | error e => rfl
  | ok t =>
    show (applyInventoryLotTracking t s.freshMovementId o >>= _) =
      (applyInventoryLotTracking t s.freshMovementId o' >>= _)
    rw [← hlots t hposted]
    cases htracked : applyInventoryLotTracking t s.freshMovementId o with
    | error e => rfl
    | ok u =>
      have hpost : postMovement s n { lots := some o } = .ok u := by
        rw [postMovement_eq, hposted, ok_bind]
        show (applyInventoryLotTracking t s.freshMovementId o >>= _) = _
        rw [htracked, ok_bind]
        rfl
      obtain ⟨p⟩ := postMovement_eq_ok hpost
      have htype : p.row.type = n.type := congrArg Movement.type p.static_row
      exact applyInventorySerialTracking_congr p.find?_row (htype ▸ hreceipt)
        (htype ▸ hdiscrepancy) hdestination hserials

/-- **The lots that two postings of one movement leave** are the same exactly when their options
decide the same. -/
theorem postMovement_lots_iff {t₁ t₂ : Store}
    {x x' : SerialOptions} (htype : n.type.isManual = true) (hquantity : n.quantityChange ≠ 0)
    (hpreferred : o.preferredLotId = none) (hpreferred' : o'.preferredLotId = none)
    (hexpired : o.allowExpired = o'.allowExpired)
    (h₁ : postMovement s n { lots := some o, serials := some x } = .ok t₁)
    (h₂ : postMovement s n { lots := some o', serials := some x' } = .ok t₂) :
    t₁.lots = t₂.lots ↔ SameLots s n.productId n.quantityChange o o' := by
  rw [postMovement_eq] at h₁ h₂
  obtain ⟨t, hposted, h₁⟩ := bind_eq_ok.mp h₁
  obtain ⟨t', hposted', h₂⟩ := bind_eq_ok.mp h₂
  cases hposted.symm.trans hposted'
  obtain ⟨u₁, hu₁, h₁⟩ := bind_eq_ok.mp h₁
  obtain ⟨u₂, hu₂, h₂⟩ := bind_eq_ok.mp h₂
  obtain ⟨row, htracked⟩ := tracked_posted hposted
  have hlots₁ : t₁.lots = u₁.lots :=
    (congrArg Store.lots (applyInventorySerialTracking_eq_ok h₁) :)
  have hlots₂ : t₂.lots = u₂.lots :=
    (congrArg Store.lots (applyInventorySerialTracking_eq_ok h₂) :)
  rw [hlots₁, hlots₂]
  exact htracked.lots_iff htype hquantity hpreferred hpreferred' hexpired hu₁ hu₂

end UInventario
