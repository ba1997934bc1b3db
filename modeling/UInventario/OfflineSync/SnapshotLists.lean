import UInventario.OfflineSync.Pulls

/-!
# The lists behind the pages

A page is cut out of a list by a number, so it matters which list that is when the tables have been
written in between. No entity is twice in a snapshot (`nodup_entities`) and no change twice among
the candidates of a pull (`nodup_unsortedCandidates`), and either list is sorted.

`Later db db' t`: `db'` has come out of `db` by writes whose stamps are after `t`. Such writes only
take entities off the snapshot as of `t` (`Later.entities_sublist`), and leave the candidates of a
pull with watermark `t` when they take none off (`Later.candidates_eq`).
-/

namespace UInventario.OfflineSync.Snapshot

open Keyed Table List

variable {ids : BalanceIds} {db db' : Db} {viewer : Viewer} {t t' since : Instant} {e e' : Entity}
  {inScope : Uuid → Prop} {catalogAllowed : Prop} {cursor : ServerCursor} {branchIds : List Uuid}
  {ρ : Type} {f : ρ → Entity} {rows : List ρ} {κ : Type}

/-! ### Nothing is there twice -/

theorem nodup_map_rows [Keyed ρ κ] [DecidableEq κ] {table : Table ρ}
    (hrows : rows.Sublist table.rows)
    (hf : ∀ r r', f r = f r' → key r = key r') : (rows.map f).Nodup := by
  refine (table.nodup_rows.sublist hrows).map_on fun r hr r' hr' h ↦ ?_
  exact eq_of_mem_of_key_eq (hrows.subset hr) (hrows.subset hr') (hf r r' h)

/-- Entities of some kinds, none of them twice. -/
structure DistinctOf (kinds : List EntityKind) (l : List Entity) : Prop where
  nodup : l.Nodup
  kind : ∀ e ∈ l, e.kind ∈ kinds

namespace DistinctOf

variable {kinds kinds' : List EntityKind} {l l' : List Entity}

theorem nil : DistinctOf kinds [] :=
  ⟨nodup_nil, forall_mem_nil _⟩

theorem append (h : DistinctOf kinds l) (h' : DistinctOf kinds' l')
    (hkinds : ∀ kind ∈ kinds, kind ∉ kinds') : DistinctOf (kinds ++ kinds') (l ++ l') where
  nodup := nodup_append.mpr ⟨h.nodup, h'.nodup, fun e he e' he' heq ↦
    hkinds _ (h.kind e he) (heq ▸ h'.kind e' he')⟩
  kind := fun e he ↦ mem_append.mpr <| (mem_append.mp he).imp (h.kind e) (h'.kind e)

theorem ite {p : Prop} [Decidable p] (h : DistinctOf kinds l) (h' : DistinctOf kinds l') :
    DistinctOf kinds (if p then l else l') := by
  split
  · exact h
  · exact h'

theorem map_rows [Keyed ρ κ] [DecidableEq κ] {table : Table ρ} (kind : EntityKind)
    (hrows : rows.Sublist table.rows) (hf : ∀ r r', f r = f r' → key r = key r')
    (hkind : ∀ r, (f r).kind = kind) : DistinctOf [kind] (rows.map f) :=
  ⟨nodup_map_rows hrows hf, forall_mem_map.mpr fun r _ ↦ mem_singleton.mpr (hkind r)⟩

theorem map_orderBy [Keyed ρ κ] [DecidableEq κ] {table : Table ρ} (kind : EntityKind)
    {le : ρ → ρ → Prop} [DecidableRel le] (hrows : rows.Sublist table.rows)
    (hf : ∀ r r', f r = f r' → key r = key r') (hkind : ∀ r, (f r).kind = kind) :
    DistinctOf [kind] ((orderBy le rows).map f) :=
  ⟨((orderBy_perm le rows).map f).nodup_iff.mpr (nodup_map_rows hrows hf),
    forall_mem_map.mpr fun r _ ↦ mem_singleton.mpr (hkind r)⟩

theorem structureEntities :
    DistinctOf [.BRANCH, .WAREHOUSE, .LOCATION, .CASH_REGISTER]
      (structureEntities db viewer t) := by
  refine (((map_orderBy .BRANCH filter_sublist ?_ ?_).append
    (map_orderBy .WAREHOUSE filter_sublist ?_ ?_) ?_).append
    (map_orderBy .LOCATION filter_sublist ?_ ?_) ?_).append
    (map_orderBy .CASH_REGISTER filter_sublist ?_ ?_) ?_
  all_goals first
    | decide
    | exact fun _ ↦ rfl
    | exact fun _ _ h ↦ congrArg Entity.id h

theorem classifications {products : List Product} :
    DistinctOf [.CATEGORY, .BRAND] (classifications db products) where
  nodup := nodup_dedup _
  kind := fun e he ↦ by
    obtain ⟨p, -, ⟨c, -, rfl⟩ | ⟨c, -, rfl⟩⟩ := mem_classifications.mp he
    · exact mem_cons_self
    · exact mem_cons_of_mem _ mem_cons_self

theorem catalogEntities {locations : List Location} :
    DistinctOf [.CATEGORY, .BRAND, .PRODUCT, .PRICE_LIST, .INVENTORY_AVAILABILITY]
      (catalogEntities ids db viewer t locations) := by
  refine ((classifications.append (map_orderBy .PRODUCT filter_sublist ?_ ?_) ?_).append
    (.ite (map_orderBy .PRICE_LIST filter_sublist ?_ ?_) .nil) ?_).append
    (.ite (map_orderBy .INVENTORY_AVAILABILITY filter_sublist ?balance ?_) .nil) ?_
  case balance => exact fun _ _ h ↦ Prod.ext_iff.mpr (ids.injective (congrArg Entity.id h))
  all_goals first
    | decide
    | exact fun _ ↦ rfl
    | exact fun _ _ h ↦ congrArg Entity.id h

end DistinctOf

theorem nodup_parts : (structureEntities db viewer t ++
      catalogEntities ids db viewer t (shownLocations db viewer t)).Nodup :=
  (DistinctOf.structureEntities.append .catalogEntities (by decide)).nodup

/-- **No entity is twice in a snapshot.** -/
theorem nodup_entities : (entities ids db viewer t).Nodup := by
  rw [entities_eq]
  split
  case isTrue => exact nodup_nil
  case isFalse =>
    split
    case isTrue => exact (orderBy_perm _ _).nodup_iff.mpr nodup_parts
    case isFalse => exact DistinctOf.structureEntities.nodup

theorem Buries.eq_of_key_eq (h : Buries db since t inScope catalogAllowed e)
    (h' : Buries db since t inScope catalogAllowed e') (hkey : e.key = e'.key) : e = e' := by
  have hid : e.id = e'.id := congrArg EntityKey.id hkey
  have hkind : e.kind = e'.kind := congrArg EntityKey.kind hkey
  cases h with
  | branch hb =>
    cases h' with
    | branch hb' => rw [eq_of_mem_of_key_eq hb hb' hid]
    | _ => exact nomatch hkind
  | warehouse hw =>
    cases h' with
    | warehouse hw' => rw [eq_of_mem_of_key_eq hw.1 hw'.1 hid]
    | _ => exact nomatch hkind
  | location hl =>
    cases h' with
    | location hl' => rw [eq_of_mem_of_key_eq hl hl' hid]
    | _ => exact nomatch hkind
  | product _ hp =>
    cases h' with
    | product _ hp' => rw [eq_of_mem_of_key_eq hp hp' hid]
    | deleted _ hg => exact absurd hid (db.buried _ hg _ hp)
    | _ => exact nomatch hkind
  | deleted _ hg =>
    cases h' with
    | deleted _ hg' => rw [eq_of_mem_of_key_eq hg hg' hid]
    | product _ hp => exact absurd hid.symm (db.buried _ hg _ hp)
    | _ => exact nomatch hkind

namespace DistinctOf

theorem structureTombstones : DistinctOf [.BRANCH, .WAREHOUSE, .LOCATION]
    (structureTombstones db since t branchIds) := by
  refine ((map_rows .BRANCH filter_sublist ?_ ?_).append
    (map_rows .WAREHOUSE filter_sublist ?_ ?_) ?_).append
    (map_rows .LOCATION filter_sublist ?_ ?_) ?_
  all_goals first
    | decide
    | exact fun _ ↦ rfl
    | exact fun _ _ h ↦ congrArg Entity.id h

theorem productTombstones : DistinctOf [.PRODUCT] (productTombstones db since t) where
  nodup := by
    refine nodup_append.mpr ⟨?_, ?_, ?_⟩
    · exact nodup_map_rows filter_sublist fun _ _ h ↦ congrArg Entity.id h
    · exact nodup_map_rows filter_sublist fun _ _ h ↦ congrArg Entity.id h
    · intro e he e' he' heq
      obtain ⟨p, hp, rfl⟩ := mem_map.mp he
      obtain ⟨g, hg, rfl⟩ := mem_map.mp he'
      exact db.buried g (mem_filter.mp hg).1 p (mem_filter.mp hp).1 (congrArg Entity.id heq)
  kind := forall_mem_append.mpr
    ⟨forall_mem_map.mpr fun _ _ ↦ mem_cons_self, forall_mem_map.mpr fun _ _ ↦ mem_cons_self⟩

end DistinctOf

theorem nodup_tombstones [Decidable catalogAllowed] :
    (tombstones db since t branchIds catalogAllowed).Nodup :=
  ((DistinctOf.ite .nil .structureTombstones).append (.ite .productTombstones .nil)
    (by decide)).nodup

/-! ### The candidates of a pull -/

/-- What a pull with a cursor and a watermark sends, change by change. -/
def Sends (ids : BalanceIds) (db : Db) (viewer : Viewer) (cursor : ServerCursor) (w : Instant)
    (c : OfflineChange) : Prop :=
  (c.operation = .UPSERT ∧ Shows ids db viewer w c.entity ∧
    cursor.snapshotAt < c.entity.updatedAt ∧ c.entity.updatedAt ≤ w) ∨
  (c.operation = .DELETE ∧
    Buries db cursor.snapshotAt w (fun id ↦ (∃ b, BranchListed db viewer w b ∧ b.id = id) ∨
      id ∈ cursor.authorizedBranchIds) viewer.catalogAllowed c.entity)

variable {c : OfflineChange} {c' : OfflineChange}

theorem mem_candidates_iff_sends :
    c ∈ candidates ids db viewer cursor t ↔ Sends ids db viewer cursor t c :=
  mem_candidates fun id ↦ by rw [mem_idsOf_branch]

abbrev unsortedCandidates (ids : BalanceIds) (db : Db) (viewer : Viewer) (cursor : ServerCursor)
    (w : Instant) : List OfflineChange :=
  ((entities ids db viewer w).filter fun e ↦ cursor.snapshotAt < e.updatedAt ∧ e.updatedAt ≤ w).map
      (OfflineChange.mk .UPSERT) ++
    (tombstones db cursor.snapshotAt w (idsOf .BRANCH (entities ids db viewer w) ++
      cursor.authorizedBranchIds).dedup viewer.catalogAllowed).map (OfflineChange.mk .DELETE)

theorem nodup_unsortedCandidates : (unsortedCandidates ids db viewer cursor t).Nodup := by
  refine nodup_append.mpr ⟨?_, ?_, ?_⟩
  · exact (nodup_entities.filter _).map fun _ _ h ↦ congrArg OfflineChange.entity h
  · exact nodup_tombstones.map fun _ _ h ↦ congrArg OfflineChange.entity h
  · intro c hc c' hc' heq
    obtain ⟨e, -, rfl⟩ := mem_map.mp hc
    obtain ⟨e', -, rfl⟩ := mem_map.mp hc'
    exact nomatch congrArg OfflineChange.operation heq

theorem Sends.eq_of_key_eq (h : Sends ids db viewer cursor t c)
    (h' : Sends ids db viewer cursor t c') (hkey : c.entity.key = c'.entity.key) : c = c' := by
  rcases h with ⟨hop, h, -⟩ | ⟨hop, h⟩
  · rcases h' with ⟨hop', h', -⟩ | ⟨-, h'⟩
    · cases c
      cases c'
      cases hop
      cases hop'
      exact congrArg _ (h.eq_of_key_eq h' hkey)
    · exact absurd hkey.symm (h'.not_shows h)
  · rcases h' with ⟨-, h', -⟩ | ⟨hop', h'⟩
    · exact absurd hkey (h.not_shows h')
    · cases c
      cases c'
      cases hop
      cases hop'
      exact congrArg _ (h.eq_of_key_eq h' hkey)

theorem Entity.key_eq_of_sortKey_eq (h : e.sortKey = e'.sortKey) : e.key = e'.key := by
  have hpair : (e.kind.rank, e.id) = (e'.kind.rank, e'.id) := toLex_inj.mp h
  have hkind : e.kind = e'.kind := EntityKind.rank_injective (congrArg Prod.fst hpair)
  rw [Entity.key, Entity.key, hkind, show e.id = e'.id from congrArg Prod.snd hpair]

theorem OfflineChange.key_eq_of_sortKey_eq (h : c.sortKey = c'.sortKey) :
    c.entity.key = c'.entity.key := by
  have hpair : (c.entity.updatedAt, c.entity.sortKey) = (c'.entity.updatedAt, c'.entity.sortKey) :=
    toLex_inj.mp h
  exact Entity.key_eq_of_sortKey_eq (congrArg Prod.snd hpair)

/-! ### Later writes -/

/-- `db'` differs from `db` only by products, price lists and balances with stamps after `t`. -/
structure Later (db db' : Db) (t : Instant) : Prop where
  branches : db'.branches = db.branches
  warehouses : db'.warehouses = db.warehouses
  locations : db'.locations = db.locations
  cashRegisters : db'.cashRegisters = db.cashRegisters
  userBranchAccess : db'.userBranchAccess = db.userBranchAccess
  userCashRegisterAccess : db'.userCashRegisterAccess = db.userCashRegisterAccess
  categories : db'.categories = db.categories
  brands : db'.brands = db.brands
  offlineSyncTombstones : db'.offlineSyncTombstones = db.offlineSyncTombstones
  products : ∀ p ∈ db'.products.rows, p.updatedAt ≤ sqlDate t → p ∈ db.products.rows
  priceLists : ∀ l ∈ db'.priceLists.rows, l.updatedAt ≤ sqlDate t → l ∈ db.priceLists.rows
  inventoryBalances : ∀ b ∈ db'.inventoryBalances.rows, b.updatedAt ≤ sqlDate t →
    b ∈ db.inventoryBalances.rows

namespace Later

variable (h : Later db db' t)

include h

theorem branchListed {b : Branch} : BranchListed db' viewer t' b ↔ BranchListed db viewer t' b := by
  rw [BranchListed, BranchListed, h.branches, h.userBranchAccess]

theorem warehouseListed {w : Warehouse} :
    WarehouseListed db' viewer t' w ↔ WarehouseListed db viewer t' w := by
  simp only [WarehouseListed, h.warehouses, h.branchListed]

theorem locationListed {l : Location} :
    LocationListed db' viewer t' l ↔ LocationListed db viewer t' l := by
  simp only [LocationListed, h.locations, h.warehouseListed]

theorem cashRegisterListed {cr : CashRegister} :
    CashRegisterListed db' viewer t' cr ↔ CashRegisterListed db viewer t' cr := by
  simp only [CashRegisterListed, h.cashRegisters, h.userCashRegisterAccess, h.branchListed]

theorem catalogListed : CatalogListed db' viewer t' ↔ CatalogListed db viewer t' := by
  simp only [CatalogListed, h.branchListed]

theorem productListed {p : Product} (hp : ProductListed db' viewer t p) :
    ProductListed db viewer t p := by
  obtain ⟨hcatalog, hp, hactive, hschema, hstamp⟩ := hp
  exact ⟨h.catalogListed.mp hcatalog, h.products p hp hstamp, hactive, hschema, hstamp⟩

theorem shows (hshows : Shows ids db' viewer t e) : Shows ids db viewer t e := by
  cases hshows with
  | branch hb => exact .branch (h.branchListed.mp hb)
  | warehouse hw => exact .warehouse (h.warehouseListed.mp hw)
  | location hl => exact .location (h.locationListed.mp hl)
  | cashRegister hcr => exact .cashRegister (h.cashRegisterListed.mp hcr)
  | category hp hc =>
    rw [Product.category?, h.categories] at hc
    exact .category (h.productListed hp) hc
  | brand hp hc =>
    rw [Product.brand?, h.brands] at hc
    exact .brand (h.productListed hp) hc
  | product hp => exact .product (h.productListed hp)
  | priceList hl =>
    obtain ⟨hcatalog, hsales, hl, hstamp⟩ := hl
    exact .priceList ⟨h.catalogListed.mp hcatalog, hsales, h.priceLists _ hl hstamp, hstamp⟩
  | balance hb =>
    obtain ⟨hcatalog, hstock, hb, hstamp, l, hl, hlb⟩ := hb
    exact .balance ⟨h.catalogListed.mp hcatalog, hstock, h.inventoryBalances _ hb hstamp, hstamp, l,
      h.locationListed.mp hl, hlb⟩

theorem buries (hburies : Buries db' since t inScope catalogAllowed e) :
    Buries db since t inScope catalogAllowed e := by
  have hwarehouse : ∀ w, WarehouseBuried db' since t inScope w →
      WarehouseBuried db since t inScope w := by
    intro w hw
    rwa [WarehouseBuried, h.warehouses] at hw
  cases hburies with
  | branch hb hinactive hwindow hscope => exact .branch (h.branches ▸ hb) hinactive hwindow hscope
  | warehouse hw => exact .warehouse (hwarehouse _ hw)
  | location hl hinactive hwindow hw hlw =>
    exact .location (h.locations ▸ hl) hinactive hwindow (hwarehouse _ hw) hlw
  | product hallowed hp hinactive hschema hwindow =>
    exact .product hallowed (h.products _ hp hwindow.2) hinactive hschema hwindow
  | deleted hallowed hg hwindow => exact .deleted hallowed (h.offlineSyncTombstones ▸ hg) hwindow

theorem sends (hsends : Sends ids db' viewer cursor t c) : Sends ids db viewer cursor t c := by
  rcases hsends with ⟨hop, hshows, hlate⟩ | ⟨hop, hburies⟩
  · exact .inl ⟨hop, h.shows hshows, hlate⟩
  · simp only [h.branchListed] at hburies
    exact .inr ⟨hop, h.buries hburies⟩

/-- **Later writes only take entities off a snapshot.** -/
theorem entities_sublist : (entities ids db' viewer t).Sublist (entities ids db viewer t) := by
  have hbranches : branchRows db' viewer t = branchRows db viewer t := by
    rw [branchRows, branchRows, h.branches, h.userBranchAccess]
  have hwarehouses : ∀ ids, warehouseRows db' t ids = warehouseRows db t ids := fun ids ↦ by
    rw [warehouseRows, warehouseRows, h.warehouses]
  have hlocations : ∀ ids, locationRows db' t ids = locationRows db t ids := fun ids ↦ by
    rw [locationRows, locationRows, h.locations]
  have hregisters : ∀ ids, cashRegisterRows db' viewer t ids = cashRegisterRows db viewer t ids :=
    fun ids ↦ by
      rw [cashRegisterRows, cashRegisterRows, h.cashRegisters, h.userCashRegisterAccess]
  have hstructure : structureEntities db' viewer t = structureEntities db viewer t := by
    simp only [structureEntities, shownLocations, hbranches, hwarehouses, hlocations, hregisters]
  have hmem : entities ids db' viewer t ⊆ entities ids db viewer t := fun e he ↦
    mem_entities.mpr (h.shows (mem_entities.mp he))
  rw [entities_eq, entities_eq, hbranches, hstructure] at hmem ⊢
  split
  case isTrue => exact List.Sublist.refl _
  case isFalse hsome =>
    rw [if_neg hsome, if_neg hsome] at hmem
    split
    case isTrue hallowed =>
      rw [if_pos hallowed, if_pos hallowed] at hmem
      refine orderBy_sublist (fun _ _ ↦ Iff.rfl) (fun e he e' he' hkey ↦ ?_) ?_ fun e he ↦ ?_
      · refine @Shows.eq_of_key_eq ids db viewer t _ _ ?_ ?_ (Entity.key_eq_of_sortKey_eq hkey)
        · rw [← mem_entities, entities_eq, if_neg hsome, if_pos hallowed]
          exact mem_orderBy.mpr he
        · rw [← mem_entities, entities_eq, if_neg hsome, if_pos hallowed]
          exact mem_orderBy.mpr he'
      · exact hstructure ▸ nodup_parts
      · exact mem_orderBy.mp (hmem (mem_orderBy.mpr he))
    case isFalse => exact List.Sublist.refl _

/-- **Later writes that take no candidate away leave the candidates as they are.** -/
theorem candidates_eq
    (hkeep : ∀ c, Sends ids db viewer cursor t c → Sends ids db' viewer cursor t c) :
    candidates ids db' viewer cursor t = candidates ids db viewer cursor t := by
  have hmem : ∀ c, c ∈ unsortedCandidates ids db' viewer cursor t ↔
      c ∈ unsortedCandidates ids db viewer cursor t := by
    intro c
    rw [← @mem_orderBy _ (fun left right ↦ left.sortKey ≤ right.sortKey) _
        (unsortedCandidates ids db viewer cursor t),
      ← @mem_orderBy _ (fun left right ↦ left.sortKey ≤ right.sortKey) _
        (unsortedCandidates ids db' viewer cursor t)]
    exact (mem_candidates_iff_sends.trans ⟨h.sends, hkeep c⟩).trans mem_candidates_iff_sends.symm
  refine orderBy_congr (fun _ _ ↦ Iff.rfl) (fun c hc c' hc' hkey ↦ ?_) nodup_unsortedCandidates
    nodup_unsortedCandidates hmem
  have hsends : ∀ c ∈ unsortedCandidates ids db viewer cursor t, Sends ids db viewer cursor t c :=
    fun c hc ↦ mem_candidates_iff_sends.mp (mem_orderBy.mpr hc)
  exact (hsends c hc).eq_of_key_eq (hsends c' hc') (OfflineChange.key_eq_of_sortKey_eq hkey)

end Later

end UInventario.OfflineSync.Snapshot
