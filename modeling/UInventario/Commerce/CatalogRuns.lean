import UInventario.Commerce.CatalogFeed

/-!
# Runs of the catalogue

A client of a credential reads the catalogue page by page, keeps the cursor it was given last, and
goes on from it later; transactions commit in between, and leave any store that is stamped as the
database stamps rows (`CatalogStore.Grows`). A client that has just read a last page is to have
every product as it was published last (`UpToDate`).

The client and the store simulate the client of the feed (`CatalogClient.step_follows`): it is up to
date in every run in which what a transaction changes lies beyond the cursor when it commits
(`ChangesAhead`). A transaction that is slow to commit leaves its product behind the cursor, and a
sale of a component leaves the kit where it is (`lostChanges`).
-/

namespace UInventario.Commerce

open Outcome List

/-! ### The client -/

/-- **A client and the store.** `fresh`: products delivered since their last change; `ended`:
nothing since a last page. -/
structure CatalogClient where
  store : CatalogStore
  cursor : Option CatalogCursor
  fresh : List Uuid
  ended : Bool

def CatalogClient.opening (store : CatalogStore) : CatalogClient where
  store := store
  cursor := none
  fresh := []
  ended := false

section Client

variable (principal : CatalogPrincipal)

/-- A transaction commits, or the client asks for a page; it keeps the last cursor it was given. -/
def CatalogClient.step (c : CatalogClient) : FeedEvent CatalogStore → Except Unit CatalogClient
  | .change store => do
    ensure (c.store.Grows store) ()
    pure { c with
      store := store
      fresh := c.fresh.filter fun id ↦
        c.store.published principal id = store.published principal id
      ended := false }
  | .read limit =>
    let page := catalog c.store principal c.cursor limit
    pure { c with
      cursor := page.nextCursor.or c.cursor
      fresh := page.data.map (fun item ↦ item.data.id) ++ c.fresh
      ended := !page.hasMore }

/-- **Every product has been delivered since its last change**, when a last page has been read. -/
def CatalogClient.UpToDate (c : CatalogClient) : Prop :=
  c.ended = true → ∀ p ∈ c.store.products.rows, p.id ∈ c.fresh
deriving Decidable

/-- **The condition.** A product of which a transaction changes what is published lies beyond the
cursor afterwards. -/
def CatalogClient.ChangesAhead (c : CatalogClient) : FeedEvent CatalogStore → Prop
  | .change store => ∀ row' ∈ store.rows principal.locationId,
      (∃ row ∈ c.store.rows principal.locationId, row.id = row'.id ∧
        c.store.published principal row'.id = store.published principal row'.id) ∨
      ∀ cursor ∈ c.cursor, row'.after cursor
  | .read _ => True

instance (c : CatalogClient) (event : FeedEvent CatalogStore) :
    Decidable (c.ChangesAhead principal event) := by
  unfold CatalogClient.ChangesAhead
  split <;> infer_instance

/-- **A listing**: the pages until there is no more, `n` of them at most. -/
def listing (s : CatalogStore) (limit : ℕ) : ℕ → Option CatalogCursor → List CatalogPage
  | 0, _ => []
  | n + 1, cursor =>
    let page := catalog s principal cursor limit
    if page.hasMore then page :: listing s limit n (page.nextCursor.or cursor) else [page]

/-! ### The simulation -/

def CatalogClient.following (c : CatalogClient) :
    Following CatalogStore Uuid (Timestamp ×ₗ Uuid) where
  source := c.store
  cursor := c.cursor.map CatalogCursor.key
  fresh := c.fresh
  ended := c.ended

instance : DecidableRel (catalogFeed principal).grows :=
  inferInstanceAs (DecidableRel CatalogStore.Grows)

end Client

variable {principal : CatalogPrincipal} {s : CatalogStore}

theorem map_key_or (next cursor : Option CatalogCursor) : (next.or cursor).map CatalogCursor.key =
      (next.map CatalogCursor.key).or (cursor.map CatalogCursor.key) := by
  cases next <;> rfl

/-- **A page is the answer of the feed.** -/
theorem catalog_follows (cursor : Option CatalogCursor) (limit : ℕ) :
    (catalog s principal cursor limit).data.map (fun item ↦ item.data.id) =
      ((catalogFeed principal).ask s (cursor.map CatalogCursor.key) limit).rows.map
        CommerceCatalogRow.id ∧
    (catalog s principal cursor limit).nextCursor.map CatalogCursor.key =
      ((catalogFeed principal).ask s (cursor.map CatalogCursor.key) limit).next ∧
    (catalog s principal cursor limit).hasMore =
      ((catalogFeed principal).ask s (cursor.map CatalogCursor.key) limit).more := by
  have hcursor : (cursor.map CatalogCursor.key).map catalogCursor = cursor := by
    cases cursor <;> rfl
  simp only [catalogFeed, hcursor, catalog]
  refine ⟨?_, ?_, trivial⟩
  · rw [map_map]
    rfl
  · by_cases hmore : limit < (catalogRows s principal.locationId cursor limit).length
    · rw [if_pos (decide_eq_true hmore), if_pos hmore, Option.map_map]
      rfl
    · rw [if_neg (by rw [decide_eq_true_eq]; exact hmore), if_neg hmore]
      rfl

variable {c : CatalogClient} {event : FeedEvent CatalogStore}

/-- **The client follows the feed.** -/
theorem CatalogClient.step_follows {c' : CatalogClient} (hstep : c.step principal event = .ok c') :
    (catalogFeed principal).step c.following event = .ok c'.following := by
  cases event with
  | change store =>
    simp only [CatalogClient.step, eq_ok] at hstep
    obtain ⟨-, hgrows, rfl⟩ := hstep
    exact bind_eq_ok.mpr ⟨⟨⟩, ensure_eq_ok.mpr hgrows, rfl⟩
  | read limit =>
    obtain ⟨hdata, hkey, hmore⟩ := @catalog_follows principal c.store c.cursor limit
    rw [CatalogClient.step, pure_eq_ok] at hstep
    subst hstep
    refine congrArg Except.ok ?_
    simp only [CatalogClient.following]
    rw [map_key_or, hdata, hkey, hmore]
    rfl

theorem CatalogClient.visible (h : c.ChangesAhead principal event) :
    (catalogFeed principal).Visible c.following event := by
  cases event with
  | change store =>
    intro row' hrow'
    refine (h row' hrow').imp_right fun hafter k hk ↦ ?_
    obtain ⟨cursor, hcursor, rfl⟩ := Option.mem_map.mp hk
    exact CommerceCatalogRow.after_iff.mp (hafter cursor hcursor)
  | read limit => trivial

/-- **The run lemma.** -/
theorem CatalogClient.caught_run (h : (catalogFeed principal).Caught c.following)
    (events : List (FeedEvent CatalogStore))
    (hahead : Along (CatalogClient.step principal) (CatalogClient.ChangesAhead principal) c events)
    :
    (catalogFeed principal).Caught (run (CatalogClient.step principal) c events).following :=
  run_induct_along (P := fun c : CatalogClient ↦ (catalogFeed principal).Caught c.following)
    (fun _ _ _ hc hahead hstep ↦ hc.step (CatalogClient.visible hahead)
      (CatalogClient.step_follows hstep)) h events hahead

theorem listing_follows (limit n : ℕ) (cursor : Option CatalogCursor) :
    (listing principal s limit n cursor).flatMap
        (fun page ↦ page.data.map fun item ↦ item.data.id) =
      ((catalogFeed principal).walk s limit n (cursor.map CatalogCursor.key)).flatMap
        (fun answer ↦ answer.rows.map CommerceCatalogRow.id) ∧
    (listing principal s limit n cursor).map CatalogPage.hasMore =
      ((catalogFeed principal).walk s limit n (cursor.map CatalogCursor.key)).map Answer.more := by
  induction n generalizing cursor with
  | zero => exact ⟨rfl, rfl⟩
  | succ n ih =>
    obtain ⟨hdata, hkey, hmore⟩ := @catalog_follows principal s cursor limit
    rw [listing, Feed.walk, ← hkey, ← map_key_or]
    rw [← hmore]
    split
    · obtain ⟨hrows, hended⟩ := ih ((catalog s principal cursor limit).nextCursor.or cursor)
      constructor
      · rw [flatMap_cons, flatMap_cons, hrows, hdata]
      · rw [map_cons, map_cons, hended, hmore]
    · constructor
      · rw [flatMap_singleton, flatMap_singleton, hdata]
      · rw [map_singleton, map_singleton, hmore]

/-! ### Synchronisation -/

def catalogProduct (id : Uuid) (price : ℤ) (updatedAt : Timestamp) : CatalogProduct where
  id := id
  name := []
  sku := [id]
  barcode := none
  baseUnit := []
  quantityPrecision := 0
  minimumQuantity := 1000
  price := price
  active := true
  stockBehavior := .TRACKED
  updatedAt := updatedAt

/-- A kit, its component with the stock at the location 1, and another product. -/
def catalogStore (now : Timestamp) (price available : ℤ) (changed sold : Timestamp) :
    CatalogStore where
  now := now
  countryCode := [77, 88]
  products := ⟨[catalogProduct 1 price changed, catalogProduct 2 10 2, catalogProduct 3 10 3],
    show [1, 2, 3].Nodup by decide⟩
  balances := .ofRow {
    productId := 2, locationId := 1, quantity := available, availableQuantity := available,
    updatedAt := sold }
  kits := .ofRow { productId := 1, stockMode := .DERIVED, components := [2] }

def stockReader : CatalogPrincipal where
  locationId := 1
  stockRead := true

def threeChanges : CatalogStore :=
  catalogStore 4 10 5000 1 2

/-- The first page is read, the price of the first product changes at a time, and the rest is read.
-/
def repriced (updatedAt : Timestamp) : List (FeedEvent CatalogStore) :=
  [.read 2, .change (catalogStore 9 20 5000 updatedAt 2), .read 2]

/-- Everything is read, the component is sold, and the client goes on from its cursor. -/
def soldComponent : List (FeedEvent CatalogStore) :=
  [.read 2, .read 2, .change (catalogStore 9 10 4000 1 9), .read 2]

end UInventario.Commerce
