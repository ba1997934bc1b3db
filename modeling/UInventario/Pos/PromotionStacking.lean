import UInventario.Pos.Pricing

/-!
# Promotions added to promotions

The engine goes through the rules in their order and keeps two sets of products: those that have a
promotion (`used`) and those to which nothing may be added (`exclusive`). A rule is left out when
one of its products is exclusive, and one that does not stack also when one of them is used.

* What a rule takes off is taken off products of the rule, each once (`sublist_of_allocations`).
* `Stacked` is the loop invariant: what has been applied says what the two sets say, and the
  promotions of an exclusive product are all of one rule (`stacked_applyRule`).
* A turn only adds, and what it adds is of its own rule (`applied_of_applyRule`).

Two rules never have one identifier, and a rule has a product once, by the keys of their tables.
-/

namespace UInventario.Pos

open Outcome List

def Promotion.productIds (rule : Promotion) : List Uuid :=
  rule.products.map PromotionProduct.productId

namespace PromotionEngine

variable {rules earlier later : List Promotion} {rule : Promotion} {lines : List PromotionLine}
  {st st' : State} {productId : Uuid}

/-! ### What a rule takes off -/

theorem bundleShares_productIds (discount regular : ℤ) (items : List Allocation) :
    ∀ assigned, (bundleShares discount regular assigned items).map Allocation.productId =
      items.map Allocation.productId := by
  induction items with
  | nil => exact fun _ ↦ rfl
  | cons item items ih =>
    intro assigned
    cases items with
    | nil => rfl
    | cons item' items =>
      rw [bundleShares, map_cons, ih, map_cons (l := item' :: items)]

variable {line : PromotionLine}

theorem productId_of_getLine (h : getLine lines productId = .ok line) :
    line ∈ lines ∧ line.productId = productId := by
  rw [getLine, demand_eq_ok] at h
  exact ⟨mem_of_find?_eq_some h, by simpa using find?_some h⟩

variable {as : List Allocation}

theorem productIds_of_percentAllocation {quantity : ℤ} {percent : ℕ}
    (h : percentAllocation line quantity percent = as) :
    (as.map Allocation.productId).Sublist [line.productId] := by
  rw [← h, percentAllocation]
  split
  · exact List.Sublist.refl _
  · exact nil_sublist _

theorem sublist_of_singleAllocation (h : singleAllocation rule line = .ok as) :
    (as.map Allocation.productId).Sublist [line.productId] := by
  rw [singleAllocation] at h
  split at h
  · simp only [buyGetAllocation, eq_ok] at h
    obtain ⟨_, _, _, _, cycles, _, h⟩ := h
    split at h
    · rw [← pure_eq_ok.mp h]
      exact nil_sublist _
    · obtain ⟨_, _, h⟩ := bind_eq_ok.mp h
      exact productIds_of_percentAllocation (pure_eq_ok.mp h)
  · simp only [secondUnitAllocation, eq_ok] at h
    obtain ⟨_, _, cycles, _, h⟩ := h
    split at h
    · rw [← pure_eq_ok.mp h]
      exact nil_sublist _
    · obtain ⟨_, _, h⟩ := bind_eq_ok.mp h
      exact productIds_of_percentAllocation (pure_eq_ok.mp h)
  · split at h
    · rw [← pure_eq_ok.mp h]
      exact nil_sublist _
    · exact productIds_of_percentAllocation (pure_eq_ok.mp h)
  · rw [← pure_eq_ok.mp h]
    exact nil_sublist _

theorem sublist_of_bundleAllocations (h : bundleAllocations rule lines = .ok as) :
    (as.map Allocation.productId).Sublist rule.productIds := by
  obtain ⟨found, _, h⟩ := bind_eq_ok.mp h
  split at h
  · rw [← pure_eq_ok.mp h]
    exact nil_sublist _
  · split at h
    · rw [← pure_eq_ok.mp h]
      exact nil_sublist _
    · obtain ⟨contributions, hcontributions, h⟩ := bind_eq_ok.mp h
      obtain ⟨fixedPrice, _, h⟩ := bind_eq_ok.mp h
      dsimp only at h
      split at h
      · rw [← pure_eq_ok.mp h]
        exact nil_sublist _
      · have hproducts : contributions.map Allocation.productId = rule.productIds := by
          refine map_mapM (fun item allocation hitem ↦ ?_) hcontributions
          obtain ⟨line, _, hitem⟩ := bind_eq_ok.mp hitem
          rw [← pure_eq_ok.mp hitem]
        rw [← pure_eq_ok.mp h, bundleShares_productIds, hproducts]

/-- **What a rule takes off** is taken off products of the rule, in their order. -/
theorem sublist_of_allocations (h : allocations rule lines = .ok as) :
    (as.map Allocation.productId).Sublist rule.productIds := by
  rw [allocations] at h
  split at h
  · exact sublist_of_bundleAllocations h
  · simp only [eq_ok] at h
    obtain ⟨product, hproduct, line, hline, h⟩ := h
    have hsingle := sublist_of_singleAllocation h
    rw [(productId_of_getLine hline).2] at hsingle
    refine hsingle.trans (singleton_sublist.mpr ?_)
    exact mem_map_of_mem (mem_of_mem_head? hproduct)

/-! ### One turn of the loop -/

theorem skips_eq_false (h : ¬st.skips lines rule = true) :
    (∀ id ∈ rule.productIds, ∃ line ∈ lines, line.productId = id) ∧
      (∀ id ∈ rule.productIds, id ∉ st.exclusive) ∧
      (rule.stackable = false → ∀ id ∈ rule.productIds, id ∉ st.used) := by
  simp only [State.skips, Bool.or_eq_true, Bool.and_eq_true, Bool.not_eq_true', any_eq_true,
    any_eq_false, decide_eq_true_eq, not_or, not_and, not_exists, not_forall] at h
  obtain ⟨⟨hcart, hexclusive⟩, hused⟩ := h
  refine ⟨fun id hid ↦ ?_, hexclusive, hused⟩
  obtain ⟨line, hline, hkey⟩ := hcart id hid
  exact ⟨line, hline, not_not.mp hkey⟩

def Allocation.applied (rule : Promotion) (a : Allocation) : Uuid × AppliedPromotion :=
  (a.productId, {
    promotionId := rule.id, type := rule.type, priority := rule.priority, amount := a.amount })

/-- **One turn**: the rule is left out, or it adds its entries and its products. -/
theorem applyRule_cases (h : applyRule lines st rule = .ok st') :
    st' = st ∨ ∃ as, allocations rule lines = .ok as ∧ ¬st.skips lines rule = true ∧
      st'.applied = st.applied ++ as.map (Allocation.applied rule) ∧
      st'.exclusive = (if rule.stackable then st.exclusive else st.exclusive ++ rule.productIds) ∧
      st'.used = st.used ++ rule.productIds := by
  rw [applyRule] at h
  split at h
  · exact Or.inl (pure_eq_ok.mp h).symm
  case isFalse hskips =>
    obtain ⟨as, has, h⟩ := bind_eq_ok.mp h
    split at h
    · exact Or.inl (pure_eq_ok.mp h).symm
    · rw [← pure_eq_ok.mp h]
      exact Or.inr ⟨as, has, hskips, rfl, rfl, rfl⟩

theorem applied_of_applyRule (h : applyRule lines st rule = .ok st') :
    ∃ added, st'.applied = st.applied ++ added ∧ ∀ x ∈ added, x.2.promotionId = rule.id := by
  rcases applyRule_cases h with rfl | ⟨as, _, _, happlied, _⟩
  · exact ⟨[], (append_nil _).symm, fun x hx ↦ absurd hx not_mem_nil⟩
  · refine ⟨_, happlied, fun x hx ↦ ?_⟩
    obtain ⟨a, _, rfl⟩ := mem_map.mp hx
    rfl

/-! ### The loop -/

structure Promotion.Gives (rule : Promotion) (lines : List PromotionLine)
    (x : Uuid × AppliedPromotion) : Prop where
  id : rule.id = x.2.promotionId
  product : x.1 ∈ rule.productIds
  inCart : ∀ id ∈ rule.productIds, ∃ line ∈ lines, line.productId = id

/-- **The loop invariant.** What has been applied is what the two sets say. -/
structure Stacked (rules : List Promotion) (lines : List PromotionLine) (st : State) : Prop where
  gives : ∀ x ∈ st.applied, ∃ rule ∈ rules, Promotion.Gives rule lines x
  used : ∀ x ∈ st.applied, x.1 ∈ st.used
  exclusive : ∀ x ∈ st.applied, ∀ rule ∈ rules, rule.id = x.2.promotionId →
    rule.stackable = false → x.1 ∈ st.exclusive
  alone : ∀ x ∈ st.applied, ∀ y ∈ st.applied, x.1 = y.1 → x.1 ∈ st.exclusive →
    x.2.promotionId = y.2.promotionId
  once : (st.applied.map fun x ↦ (x.1, x.2.promotionId)).Nodup

theorem stacked_empty : Stacked rules lines {} where
  gives := forall_mem_nil _
  used := forall_mem_nil _
  exclusive := forall_mem_nil _
  alone := forall_mem_nil _
  once := nodup_nil

/-- **The step**: a rule that has not had its turn. -/
theorem stacked_applyRule (hids : (rules.map fun rule ↦ rule.id).Nodup)
    (hproducts : rule.productIds.Nodup) (hmem : rule ∈ rules)
    (hfresh : ∀ x ∈ st.applied, x.2.promotionId ≠ rule.id) (hst : Stacked rules lines st)
    (h : applyRule lines st rule = .ok st') : Stacked rules lines st' := by
  rcases applyRule_cases h with rfl | ⟨as, has, hskips, happlied, hexclusive, hused⟩
  · exact hst
  obtain ⟨hcart, hfree, hunused⟩ := skips_eq_false hskips
  have hsublist := sublist_of_allocations has
  -- A new entry is the rule's, for one of its products.
  have hnew : ∀ x ∈ as.map (Allocation.applied rule),
      x.2.promotionId = rule.id ∧ x.1 ∈ rule.productIds := by
    refine forall_mem_map.mpr fun a ha ↦ ?_
    exact ⟨rfl, hsublist.subset (mem_map_of_mem ha)⟩
  have hwas : ∀ id, id ∈ st.exclusive → id ∈ st'.exclusive := by
    intro id hid
    rw [hexclusive]
    split
    · exact hid
    · exact mem_append_left _ hid
  -- An entry that was there and a new one of the same product: the product is not exclusive.
  have hmixed : ∀ x ∈ st.applied, x.1 ∈ rule.productIds → x.1 ∉ st'.exclusive := by
    intro x hx hproduct hin
    rw [hexclusive] at hin
    split at hin
    · exact hfree x.1 hproduct hin
    case isFalse hstackable =>
      exact hunused (Bool.eq_false_iff.mpr hstackable) x.1 hproduct (hst.used x hx)
  refine ⟨?_, ?_, ?_, ?_, ?_⟩
  · intro x hx
    rw [happlied] at hx
    rcases mem_append.mp hx with hx | hx
    · exact hst.gives x hx
    · exact ⟨rule, hmem, ⟨(hnew x hx).1.symm, (hnew x hx).2, hcart⟩⟩
  · intro x hx
    rw [happlied] at hx
    rw [hused]
    rcases mem_append.mp hx with hx | hx
    · exact mem_append_left _ (hst.used x hx)
    · exact mem_append_right _ (hnew x hx).2
  · intro x hx other hother hid hstackable
    rw [happlied] at hx
    rcases mem_append.mp hx with hx | hx
    · exact hwas x.1 (hst.exclusive x hx other hother hid hstackable)
    · have heq : other = rule :=
        inj_on_of_nodup_map hids hother hmem (hid.trans (hnew x hx).1)
      rw [hexclusive, if_neg (by rw [← heq, hstackable]; exact Bool.false_ne_true)]
      exact mem_append_right _ (hnew x hx).2
  · intro x hx y hy hproduct hin
    rw [happlied] at hx hy
    rcases mem_append.mp hx with hx | hx <;> rcases mem_append.mp hy with hy | hy
    · refine hst.alone x hx y hy hproduct ?_
      by_contra hnot
      refine hmixed x hx ?_ hin
      rw [hexclusive] at hin
      split at hin
      · exact absurd hin hnot
      · exact (mem_append.mp hin).resolve_left hnot
    · exact absurd hin (hmixed x hx (hproduct ▸ (hnew y hy).2))
    · exact absurd (hproduct ▸ hin) (hmixed y hy (hproduct ▸ (hnew x hx).2))
    · rw [(hnew x hx).1, (hnew y hy).1]
  · rw [happlied, map_append]
    refine nodup_append.mpr ⟨hst.once, ?_, ?_⟩
    · rw [map_map]
      have hpairs : ((as.map Allocation.productId).map fun id ↦ (id, rule.id)).Nodup :=
        (hproducts.sublist hsublist).map fun _ _ heq ↦ (Prod.mk.inj heq).1
      rw [map_map] at hpairs
      exact hpairs
    · intro pair hpair pair' hpair' heq
      obtain ⟨x, hx, rfl⟩ := mem_map.mp hpair
      obtain ⟨y, hy, rfl⟩ := mem_map.mp hpair'
      exact hfresh x hx ((Prod.mk.inj heq).2.trans (hnew y hy).1)

/-- **The run**: the invariant holds when every rule has had its turn. -/
theorem stacked_of_foldlM (hids : (rules.map fun rule ↦ rule.id).Nodup)
    (hproducts : ∀ rule ∈ rules, rule.productIds.Nodup)
    (h : rules.foldlM (applyRule lines) {} = .ok st) : Stacked rules lines st := by
  -- The rules still to come have given nothing yet.
  have hrun := foldlM_induct (f := applyRule lines)
    (P := fun rest st ↦ Stacked rules lines st ∧ rest.Sublist rules ∧
      ∀ rule ∈ rest, ∀ x ∈ st.applied, x.2.promotionId ≠ rule.id)
    (fun rule rest st st' ⟨hst, hsub, hfresh⟩ hstep ↦ by
      have hmem : rule ∈ rules := hsub.subset mem_cons_self
      refine ⟨stacked_applyRule hids (hproducts rule hmem) hmem (hfresh rule mem_cons_self)
        hst hstep, (sublist_cons_self rule rest).trans hsub, fun other hother x hx ↦ ?_⟩
      obtain ⟨added, happlied, hadded⟩ := applied_of_applyRule hstep
      rw [happlied] at hx
      rcases mem_append.mp hx with hx | hx
      · exact hfresh other (mem_cons_of_mem rule hother) x hx
      · rw [hadded x hx]
        intro hid
        have hnodup : ((rule :: rest).map fun rule ↦ rule.id).Nodup :=
          hids.sublist (hsub.map fun rule : Promotion ↦ rule.id)
        rw [map_cons, nodup_cons] at hnodup
        exact hnodup.1 (mem_map.mpr ⟨other, hother, hid.symm⟩))
    (l := rules) ⟨stacked_empty, List.Sublist.refl _, fun _ _ _ hx ↦ absurd hx not_mem_nil⟩ h
  exact hrun.1

/-- **Longer lists**: the rules that follow only add entries of their own. -/
theorem applied_of_foldlM (h : later.foldlM (applyRule lines) st = .ok st') :
    ∃ added, st'.applied = st.applied ++ added ∧
      ∀ x ∈ added, ∃ rule ∈ later, rule.id = x.2.promotionId := by
  refine foldlM_invariant (P := fun s : State ↦ ∃ added, s.applied = st.applied ++ added ∧
    ∀ x ∈ added, ∃ rule ∈ later, rule.id = x.2.promotionId) (fun rule hrule s s' hs hstep ↦ ?_)
    ⟨[], (append_nil _).symm, forall_mem_nil _⟩ h
  obtain ⟨added, happlied, hadded⟩ := hs
  obtain ⟨more, hmore, hrules⟩ := applied_of_applyRule hstep
  refine ⟨added ++ more, by rw [hmore, happlied, append_assoc], fun x hx ↦ ?_⟩
  rcases mem_append.mp hx with hx | hx
  · exact hadded x hx
  · exact ⟨rule, hrule, (hrules x hx).symm⟩

/-! ### `resolve` -/

def State.promotionsOf (st : State) (productId : Uuid) : List AppliedPromotion :=
  (st.applied.filter fun a ↦ a.1 = productId).map Prod.snd

/-- The loop of `resolve`, for the rules in their order. -/
def resolveRules (rules : List Promotion) (lines : List PromotionLine) :
    Except CartFailure (Uuid → List AppliedPromotion) := do
  let st ← rules.foldlM (applyRule lines) {}
  pure st.promotionsOf

theorem resolve_eq (promotions : List Promotion) (context : PriceContext) (now : Timestamp)
    (lines : List PromotionLine) :
    resolve promotions context now lines =
      resolveRules (applicable promotions context now (lines.map PromotionLine.productId)) lines :=
  rfl

theorem mem_promotionsOf {a : AppliedPromotion} :
    a ∈ st.promotionsOf productId ↔ (productId, a) ∈ st.applied := by
  rw [State.promotionsOf, mem_map]
  constructor
  · rintro ⟨x, hx, rfl⟩
    obtain ⟨hmem, hid⟩ := mem_filter.mp hx
    rw [← of_decide_eq_true hid]
    exact hmem
  · intro h
    exact ⟨(productId, a), mem_filter.mpr ⟨h, decide_eq_true rfl⟩, rfl⟩

theorem nodup_promotionsOf (hst : Stacked rules lines st) :
    ((st.promotionsOf productId).map AppliedPromotion.promotionId).Nodup := by
  have hpairs : ((st.applied.filter fun a ↦ a.1 = productId).map
      fun x ↦ (x.1, x.2.promotionId)).Nodup :=
    hst.once.sublist (filter_sublist.map _)
  rw [State.promotionsOf, map_map]
  refine List.Nodup.of_map (fun id ↦ (productId, id)) ?_
  rw [map_map]
  refine (map_congr_left fun x hx ↦ ?_) ▸ hpairs
  rw [← of_decide_eq_true (mem_filter.mp hx).2]
  rfl

theorem applicable_perm (promotions : List Promotion) (context : PriceContext) (now : Timestamp)
    (productIds : List Uuid) :
    (applicable promotions context now productIds).Perm (promotions.filter fun p ↦
      p.appliesTo context now && p.products.any fun item ↦ decide (item.productId ∈ productIds)) :=
  orderBy_perm _ _

/-- **Promotions stack as they say**: one that does not stack is the only one of its products, each
is given once, to carts that have all its products, and fewer rules give fewer answers. -/
theorem resolve_stacks {promotions : List Promotion} {context : PriceContext} {now : Timestamp}
    {lines : List PromotionLine} {applied : Uuid → List AppliedPromotion}
    (hids : (promotions.map fun rule ↦ rule.id).Nodup)
    (hproducts : ∀ rule ∈ promotions, rule.productIds.Nodup)
    (h : resolve promotions context now lines = .ok applied) :
    (∀ productId, ∀ a ∈ applied productId, ∀ rule ∈ promotions, rule.id = a.promotionId →
      rule.stackable = false → applied productId = [a]) ∧
      (∀ productId, ((applied productId).map AppliedPromotion.promotionId).Nodup) ∧
      (∀ productId, ∀ a ∈ applied productId,
        ∃ rule ∈ applicable promotions context now (lines.map PromotionLine.productId),
          rule.id = a.promotionId ∧ productId ∈ rule.productIds ∧
            ∀ id ∈ rule.productIds, ∃ line ∈ lines, line.productId = id) ∧
      ∀ earlier later, applicable promotions context now (lines.map PromotionLine.productId) =
        earlier ++ later → ∃ before, resolveRules earlier lines = .ok before ∧ ∀ productId,
            ∃ added, applied productId = before productId ++ added ∧
              ∀ a ∈ added, ∃ rule ∈ later, rule.id = a.promotionId := by
  have hperm := applicable_perm promotions context now (lines.map PromotionLine.productId)
  rw [resolve_eq, resolveRules] at h
  generalize applicable promotions context now (lines.map PromotionLine.productId) = rules at *
  obtain ⟨st, hst, hanswer⟩ := bind_eq_ok.mp h
  rw [← pure_eq_ok.mp hanswer]
  have hmem : ∀ rule ∈ rules, rule ∈ promotions := fun rule hrule ↦
    mem_of_mem_filter (hperm.mem_iff.mp hrule)
  have hids' : (rules.map fun rule ↦ rule.id).Nodup :=
    ((hperm.map _).nodup_iff).mpr (hids.sublist (filter_sublist.map _))
  have hstacked := stacked_of_foldlM hids' (fun rule hrule ↦ hproducts rule (hmem rule hrule)) hst
  refine ⟨?_, fun productId ↦ nodup_promotionsOf hstacked, ?_, ?_⟩
  · intro productId a ha rule hrule hid hstackable
    have hentry := mem_promotionsOf.mp ha
    obtain ⟨giver, hgiver, hgives⟩ := hstacked.gives _ hentry
    have heq : rule = giver :=
      inj_on_of_nodup_map hids hrule (hmem giver hgiver) (hid.trans hgives.id.symm)
    have hexclusive := hstacked.exclusive _ hentry giver hgiver hgives.id (heq ▸ hstackable)
    -- All promotions of the product are of one rule, and it has that one once.
    have hall : ∀ b ∈ st.promotionsOf productId, b.promotionId = a.promotionId := fun b hb ↦
      (hstacked.alone _ hentry _ (mem_promotionsOf.mp hb) rfl hexclusive).symm
    have hnodup : ((st.promotionsOf productId).map AppliedPromotion.promotionId).Nodup :=
      nodup_promotionsOf hstacked
    cases hlist : st.promotionsOf productId with
    | nil =>
      rw [hlist] at ha
      exact absurd ha not_mem_nil
    | cons b rest =>
      rw [hlist] at ha hall hnodup
      cases rest with
      | nil => rw [mem_singleton.mp ha]
      | cons c rest =>
        rw [map_cons, map_cons, hall b mem_cons_self,
          hall c (mem_cons_of_mem b mem_cons_self)] at hnodup
        exact absurd mem_cons_self (nodup_cons.mp hnodup).1
  · intro productId a ha
    obtain ⟨rule, hrule, hgives⟩ := hstacked.gives _ (mem_promotionsOf.mp ha)
    exact ⟨rule, hrule, hgives.id, hgives.product, hgives.inCart⟩
  · intro earlier later hsplit
    rw [hsplit, foldlM_append] at hst
    obtain ⟨before, hbefore, hlater⟩ := bind_eq_ok.mp hst
    refine ⟨before.promotionsOf, bind_eq_ok.mpr ⟨before, hbefore, rfl⟩, fun productId ↦ ?_⟩
    obtain ⟨added, happlied, hadded⟩ := applied_of_foldlM hlater
    refine ⟨(added.filter fun a ↦ a.1 = productId).map Prod.snd, ?_, fun a ha ↦ ?_⟩
    · rw [State.promotionsOf, happlied, filter_append, map_append]
      rfl
    · obtain ⟨x, hx, rfl⟩ := mem_map.mp ha
      exact hadded x (mem_of_mem_filter hx)

def tenPercent (id : Uuid) (priority : ℤ) (stackable : Bool) : Promotion where
  id := id
  scope := {}
  priority := priority
  validFrom := 0
  type := .QUANTITY_PERCENT
  stackable := stackable
  products := [⟨1, 1000⟩]
  tiers := [⟨1000, 100000⟩]

theorem resolve_stacks_alone :
    (resolve [tenPercent 8 10 true, tenPercent 7 100 false] ⟨1, none, .POS⟩ 5
      [⟨1, 1000, 10000⟩]).toOption.getD (fun _ ↦ []) 1 = [⟨7, .QUANTITY_PERCENT, 100, 1000⟩] :=
  (resolve_stacks (by decide) (by decide) (eq_ok_getD (by decide +kernel) _)).1 1
    ⟨7, .QUANTITY_PERCENT, 100, 1000⟩ (by decide +kernel) (tenPercent 7 100 false) (by decide) rfl
    rfl

end PromotionEngine

end UInventario.Pos
