import Follon.Execution.PassiveRepricing

/-!
# Legal and complete passive plans

Every replacement of a passive plan is legal against the child it replaces, and
every observation without a replacement had no legal price.
-/

namespace Follon.Execution

open Foundation Domain

/-! ## The grid -/

variable {bound : Int} {prior : Option UInt64}
  {replacements : List CancelReplaceInstruction}

theorem le_floor_of_dvd {tick price : Int} (htick : 0 < tick)
    (hgrid : tick ∣ price) (hle : price ≤ bound) : price ≤ bound - bound % tick := by
  obtain ⟨count, rfl⟩ := hgrid
  have hcount : count ≤ bound / tick := by
    apply Int.le_ediv_of_mul_le htick
    rw [Int.mul_comm]
    exact hle
  have hscaled := Int.mul_le_mul_of_nonneg_left hcount (Int.le_of_lt htick)
  have hsplit := Int.mul_ediv_add_emod bound tick
  omega

theorem floor_add_le_of_dvd {tick price : Int} (htick : 0 < tick)
    (hgrid : tick ∣ price) (hlt : bound < price) :
    bound - bound % tick + tick ≤ price := by
  have hfloor : tick ∣ bound - bound % tick := Int.dvd_self_sub_emod
  have hmod := Int.emod_nonneg bound (Int.ne_of_gt htick)
  have hgap : tick ∣ price - (bound - bound % tick) := Int.dvd_sub hgrid hfloor
  have := Int.le_of_dvd (by omega) hgap
  omega

variable {tick : Decimal} {observation : PassiveMarketObservation}
  {live : LiveChild}

theorem isOffGrid_eq_false {price : Decimal} :
    isOffGrid price tick = false ↔ tick.scaled ∣ price.scaled := by
  rw [isOffGrid, bne_eq_false_iff_eq]
  exact (Int.dvd_iff_tmod_eq_zero).symm

/-! ## Legal replacements -/

def WithinHardLimit (parent : ParentOrder) (price : Int) : Prop :=
  match parent.side with
  | .buy => ∀ limit ∈ parent.limitPrice, price ≤ limit.scaled
  | .sell => ∀ limit ∈ parent.limitPrice, limit.scaled ≤ price

def passivePrices (parent : ParentOrder) (tick : Decimal)
    (observation : PassiveMarketObservation) : Set Int :=
  {price | tick.scaled ∣ price ∧ WithinHardLimit parent price
    ∧ match parent.side with
      | .buy => price ≤ observation.bestBid.scaled
      | .sell => observation.bestAsk.scaled ≤ price}

def IsPassivePrice (parent : ParentOrder) (tick : Decimal)
    (observation : PassiveMarketObservation) (price : Decimal) : Prop :=
  match parent.side with
  | .buy => IsGreatest (passivePrices parent tick observation) price.scaled
  | .sell => IsLeast (passivePrices parent tick observation) price.scaled

def Improves (side : Side) (before now : Decimal) : Prop :=
  match side with
  | .buy => before < now
  | .sell => now < before

def StaysPassive (side : Side) (observation : PassiveMarketObservation)
    (price : Decimal) : Prop :=
  match side with
  | .buy => price < observation.bestAsk
  | .sell => observation.bestBid < price

structure Legal (parent : ParentOrder) (policy : PassiveRepricePolicy)
    (live : LiveChild) (observation : PassiveMarketObservation)
    (price : Decimal) : Prop where
  passive : IsPassivePrice parent policy.tickSize observation price
  grid : policy.tickSize.scaled ∣ price.scaled
  hardLimit : WithinHardLimit parent price.scaled
  improves : Improves parent.side live.currentPrice price
  uncrossed : StaysPassive parent.side observation price
  interval : live.lastReplaceAt.toNat + policy.minimumReplaceIntervalSeconds.toNat
    ≤ observation.observedAfterSeconds.toNat
  count : live.replacements < policy.maximumReplacements
  chase : ∃ deviation, priceDeviationBps policy.initialLimitPrice price = .ok deviation
      ∧ deviation.scaled ≤ policy.maximumChaseBps * Decimal.scale

/-- The replacements a sequence of observations calls for: one at each
observation with a legal price, which replaces the child live there. -/
inductive Reprices (parent : ParentOrder) (policy : PassiveRepricePolicy) :
    LiveChild → List PassiveMarketObservation → List CancelReplaceInstruction → Prop
  | finished (live : LiveChild) : Reprices parent policy live [] []
  | skipped {live : LiveChild} {observation : PassiveMarketObservation}
      {rest : List PassiveMarketObservation}
      {later : List CancelReplaceInstruction}
      (hnone : ∀ price, ¬Legal parent policy live observation price)
      (hlater : Reprices parent policy live rest later) :
      Reprices parent policy live (observation :: rest) later
  | replaced {live : LiveChild} {observation : PassiveMarketObservation}
      {rest : List PassiveMarketObservation}
      {later : List CancelReplaceInstruction} {price : Decimal}
      (hlegal : Legal parent policy live observation price)
      (hlater : Reprices parent policy
        (live.replaced parent observation price) rest later) :
      Reprices parent policy live (observation :: rest)
        (replacementAt parent live observation price :: later)

theorem IsPassivePrice.unique {parent : ParentOrder} {price other : Decimal}
    (h : IsPassivePrice parent tick observation price)
    (hother : IsPassivePrice parent tick observation other) : price = other := by
  apply Decimal.ext
  unfold IsPassivePrice at h hother
  cases hside : parent.side with
  | buy =>
    simp only [hside] at h hother
    exact h.unique hother
  | sell =>
    simp only [hside] at h hother
    exact h.unique hother

theorem IsPassivePrice.mem {parent : ParentOrder} {price : Decimal}
    (h : IsPassivePrice parent tick observation price) :
    price.scaled ∈ passivePrices parent tick observation := by
  unfold IsPassivePrice at h
  split at h
  · exact h.1
  · exact h.1

/-! ## What one observation does -/

theorem mem_passivePrices_buy {parent : ParentOrder} {price : Int}
    (hside : parent.side = .buy) : price ∈ passivePrices parent tick observation ↔
      tick.scaled ∣ price ∧ (∀ limit ∈ parent.limitPrice, price ≤ limit.scaled)
        ∧ price ≤ observation.bestBid.scaled := by
  simp only [passivePrices, WithinHardLimit, hside, Set.mem_ofPred_eq]

theorem mem_passivePrices_sell {parent : ParentOrder} {price : Int}
    (hside : parent.side = .sell) : price ∈ passivePrices parent tick observation ↔
      tick.scaled ∣ price ∧ (∀ limit ∈ parent.limitPrice, limit.scaled ≤ price)
        ∧ observation.bestAsk.scaled ≤ price := by
  simp only [passivePrices, WithinHardLimit, hside, Set.mem_ofPred_eq]

theorem clampToLimit_buy {parent : ParentOrder} {price : Decimal}
    (hside : parent.side = .buy) (htick : 0 < tick.scaled)
    (hgrid : tick.scaled ∣ observation.bestBid.scaled)
    (h : clampToLimit parent tick observation.bestBid = .ok price) :
    IsGreatest (passivePrices parent tick observation) price.scaled := by
  unfold clampToLimit at h
  cases hlimit : parent.limitPrice with
  | none =>
    rw [hlimit] at h
    obtain rfl := Except.ok.inj h
    have hnone : ∀ limit ∈ parent.limitPrice,
        observation.bestBid.scaled ≤ limit.scaled := by
      rw [hlimit]
      exact fun _ hmem => absurd hmem (Option.not_mem_none _)
    constructor
    · rw [mem_passivePrices_buy hside]
      exact ⟨hgrid, hnone, Int.le_refl _⟩
    · intro other hother
      exact ((mem_passivePrices_buy hside).mp hother).2.2
  | some hardLimit =>
    simp only [hlimit, hside, bind_eq_ok, checked_eq_ok] at h
    obtain ⟨highest, hhighest, hprice⟩ := h
    obtain rfl := Except.ok.inj hprice
    have hmod := Int.emod_nonneg hardLimit.scaled (Int.ne_of_gt htick)
    have hfloor : tick.scaled ∣ highest.scaled := by
      rw [hhighest]
      exact Int.dvd_self_sub_emod
    rw [scaled_min]
    constructor
    · rw [mem_passivePrices_buy hside]
      refine ⟨?_, ?_, min_le_left _ _⟩
      · rcases min_choice observation.bestBid.scaled highest.scaled with
          hbid | hhigh
        · rw [hbid]
          exact hgrid
        · rw [hhigh]
          exact hfloor
      · intro limit hmem
        rw [hlimit] at hmem
        obtain rfl := Option.some.inj hmem
        have := min_le_right observation.bestBid.scaled highest.scaled
        omega
    · intro other hother
      obtain ⟨hothergrid, hwithin, hbid⟩ :=
        (mem_passivePrices_buy hside).mp hother
      have hlow := le_floor_of_dvd htick hothergrid (hwithin hardLimit hlimit)
      rw [← hhighest] at hlow
      exact le_min hbid hlow

theorem clampToLimit_sell {parent : ParentOrder} {price : Decimal}
    (hside : parent.side = .sell) (htick : 0 < tick.scaled)
    (hgrid : tick.scaled ∣ observation.bestAsk.scaled)
    (h : clampToLimit parent tick observation.bestAsk = .ok price) :
    IsLeast (passivePrices parent tick observation) price.scaled := by
  unfold clampToLimit at h
  cases hlimit : parent.limitPrice with
  | none =>
    rw [hlimit] at h
    obtain rfl := Except.ok.inj h
    have hnone : ∀ limit ∈ parent.limitPrice,
        limit.scaled ≤ observation.bestAsk.scaled := by
      rw [hlimit]
      exact fun _ hmem => absurd hmem (Option.not_mem_none _)
    constructor
    · rw [mem_passivePrices_sell hside]
      exact ⟨hgrid, hnone, Int.le_refl _⟩
    · intro other hother
      exact ((mem_passivePrices_sell hside).mp hother).2.2
  | some hardLimit =>
    simp only [hlimit, hside, bind_eq_ok, checked_eq_ok] at h
    obtain ⟨lowest, hlowest, hprice⟩ := h
    obtain rfl := Except.ok.inj hprice
    have hmod := Int.emod_lt_of_pos hardLimit.scaled htick
    have hfloor : tick.scaled
        ∣ hardLimit.scaled - hardLimit.scaled % tick.scaled :=
      Int.dvd_self_sub_emod
    have hceiling : tick.scaled ∣ lowest.scaled
        ∧ hardLimit.scaled ≤ lowest.scaled := by
      rw [hlowest]
      split
      · next hon => exact ⟨hfloor, by omega⟩
      · exact ⟨Int.dvd_add hfloor (Int.dvd_refl _), by omega⟩
    rw [Decimal.scaled_max]
    constructor
    · rw [mem_passivePrices_sell hside]
      refine ⟨?_, ?_, le_max_left _ _⟩
      · rcases max_choice observation.bestAsk.scaled lowest.scaled with
          hask | hlow
        · rw [hask]
          exact hgrid
        · rw [hlow]
          exact hceiling.1
      · intro limit hmem
        rw [hlimit] at hmem
        obtain rfl := Option.some.inj hmem
        exact le_trans hceiling.2 (le_max_right _ _)
    · intro other hother
      obtain ⟨hothergrid, hwithin, hask⟩ :=
        (mem_passivePrices_sell hside).mp hother
      apply max_le hask
      rw [hlowest]
      have habove := hwithin hardLimit hlimit
      split
      · omega
      · next hoff =>
          apply floor_add_le_of_dvd htick hothergrid
          rcases Int.lt_or_eq_of_le habove with hlt | heq
          · exact hlt
          · rw [← heq] at hothergrid
            rw [Int.emod_eq_zero_of_dvd hothergrid] at hoff
            omega

theorem isPassivePrice_of_clampToLimit {parent : ParentOrder} {price : Decimal}
    (htick : 0 < tick.scaled)
    (hgrid : tick.scaled ∣ (ownQuote parent.side observation).scaled)
    (h : clampToLimit parent tick (ownQuote parent.side observation)
      = .ok price) : IsPassivePrice parent tick observation price := by
  unfold IsPassivePrice
  cases hside : parent.side with
  | buy =>
    rw [hside] at hgrid h
    exact clampToLimit_buy hside htick hgrid h
  | sell =>
    rw [hside] at hgrid h
    exact clampToLimit_sell hside htick hgrid h

/-- A grid price the hard limit allows leaves room for the next grid price at
the limit, so the addition of a sell never overflows. -/
theorem clampToLimit_ok {parent : ParentOrder} {allowed : Decimal}
    (htick : 0 < tick.scaled) (hgrid : tick.scaled ∣ allowed.scaled)
    (hallowed : WithinHardLimit parent allowed.scaled)
    (hpositive : ∀ limit ∈ parent.limitPrice, 0 < limit.scaled) (candidate : Decimal) :
    ∃ price, clampToLimit parent tick candidate = .ok price := by
  unfold clampToLimit
  cases hlimit : parent.limitPrice with
  | none => exact ⟨candidate, rfl⟩
  | some hardLimit =>
    have hpos := hpositive hardLimit hlimit
    have hmax := hardLimit.le_max
    have hnonneg := Int.emod_nonneg hardLimit.scaled (Int.ne_of_gt htick)
    have hle : hardLimit.scaled % tick.scaled ≤ hardLimit.scaled := by
      have hquotient : 0 ≤ hardLimit.scaled / tick.scaled :=
        Int.ediv_nonneg (Int.le_of_lt hpos) (Int.le_of_lt htick)
      have hproduct := Int.mul_nonneg (Int.le_of_lt htick) hquotient
      have hsplit := Int.mul_ediv_add_emod hardLimit.scaled tick.scaled
      omega
    unfold WithinHardLimit at hallowed
    cases hside : parent.side with
    | buy =>
      obtain ⟨highest, hhighest⟩ := Decimal.checked_ok
        "attempt to add with overflow"
        (Decimal.i128Min_le_of_nonneg (by omega) : i128Min
          ≤ hardLimit.scaled - hardLimit.scaled % tick.scaled) (by omega)
      simp only [bind_eq_ok]
      exact ⟨_, highest, hhighest, rfl⟩
    | sell =>
      simp only [hside] at hallowed
      have hroom := hallowed hardLimit hlimit
      have hceiling : (if hardLimit.scaled - hardLimit.scaled % tick.scaled
            = hardLimit.scaled then
          hardLimit.scaled - hardLimit.scaled % tick.scaled
        else
          hardLimit.scaled - hardLimit.scaled % tick.scaled + tick.scaled)
            ≤ allowed.scaled := by
        split
        · omega
        · next hoff =>
            apply floor_add_le_of_dvd htick hgrid
            rcases Int.lt_or_eq_of_le hroom with hlt | heq
            · exact hlt
            · rw [← heq] at hgrid
              rw [Int.emod_eq_zero_of_dvd hgrid] at hoff
              omega
      obtain ⟨lowest, hlowest⟩ := Decimal.checked_ok
        "attempt to add with overflow"
        (Decimal.i128Min_le_of_nonneg (by split <;> omega))
        (Int.le_trans hceiling allowed.le_max)
      simp only [bind_eq_ok]
      exact ⟨_, lowest, hlowest, rfl⟩

theorem checkedAddSeconds_eq_ok {a b due : UInt64}
    (h : checkedAddSeconds a b = .ok due) : due.toNat = a.toNat + b.toNat := by
  unfold checkedAddSeconds at h
  split at h
  · next hfits =>
      rw [← Except.ok.inj h]
      exact UInt64.toNat_ofNat_of_lt hfits
  · contradiction

theorem isMoreAggressive_iff {side : Side} {currentPrice price : Decimal} :
    isMoreAggressive side observation currentPrice price = true ↔
      Improves side currentPrice price
        ∧ StaysPassive side observation price := by
  cases side <;>
    simp [isMoreAggressive, Improves, StaysPassive]

theorem legal_of_repriceAt {parent : ParentOrder}
    {policy : PassiveRepricePolicy} {price : Decimal}
    (htick : 0 < policy.tickSize.scaled) (hgrid : policy.tickSize.scaled
      ∣ (ownQuote parent.side observation).scaled)
    (h : repriceAt parent policy live observation = .ok (some price)) :
    Legal parent policy live observation price := by
  unfold repriceAt at h
  split at h
  · exact absurd (Except.ok.inj h) nofun
  · next hcount =>
      simp only [bind_eq_ok] at h
      obtain ⟨due, hdue, h⟩ := h
      split at h
      · exact absurd (Except.ok.inj h) nofun
      · next hinterval =>
          simp only [bind_eq_ok] at h
          obtain ⟨candidate, hcandidate, h⟩ := h
          split at h
          · next haggressive =>
              simp only [bind_eq_ok] at h
              obtain ⟨deviation, hdeviation, maximumChase, hmaximum, h⟩ := h
              have hsome := Except.ok.inj h
              split at hsome
              · contradiction
              · next hchase =>
                  obtain rfl := Option.some.inj hsome
                  have hpassive := isPassivePrice_of_clampToLimit htick hgrid hcandidate
                  obtain ⟨himproves, huncrossed⟩ :=
                    isMoreAggressive_iff.mp haggressive
                  refine ⟨hpassive, hpassive.mem.1, hpassive.mem.2.1, himproves,
                    huncrossed, ?_, Nat.not_le.mp hcount, deviation, hdeviation, ?_⟩
                  · rw [← checkedAddSeconds_eq_ok hdue]
                    exact Nat.not_lt.mp hinterval
                  · rw [← checked_eq_ok.mp hmaximum]
                    exact Int.not_lt.mp hchase
          · exact absurd (Except.ok.inj h) nofun

theorem not_legal_of_repriceAt {parent : ParentOrder}
    {policy : PassiveRepricePolicy} (htick : 0 < policy.tickSize.scaled)
    (hgrid : policy.tickSize.scaled ∣ (ownQuote parent.side observation).scaled)
    (h : repriceAt parent policy live observation = .ok none) (price : Decimal)
    : ¬Legal parent policy live observation price := by
  intro hlegal
  unfold repriceAt at h
  rw [if_neg (Nat.not_le.mpr hlegal.count)] at h
  simp only [bind_eq_ok] at h
  obtain ⟨due, hdue, h⟩ := h
  have hinterval : ¬observation.observedAfterSeconds < due := by
    intro hearly
    have hlt : observation.observedAfterSeconds.toNat < due.toNat := hearly
    rw [checkedAddSeconds_eq_ok hdue] at hlt
    exact Nat.not_lt.mpr hlegal.interval hlt
  rw [if_neg hinterval] at h
  simp only [bind_eq_ok] at h
  obtain ⟨candidate, hcandidate, h⟩ := h
  obtain rfl := hlegal.passive.unique
    (isPassivePrice_of_clampToLimit htick hgrid hcandidate)
  rw [if_pos (isMoreAggressive_iff.mpr
    ⟨hlegal.improves, hlegal.uncrossed⟩)] at h
  simp only [bind_eq_ok] at h
  obtain ⟨deviation, hdeviation, maximumChase, hmaximum, h⟩ := h
  obtain ⟨legalDeviation, hlegalDeviation, hchase⟩ := hlegal.chase
  obtain rfl := Except.ok.inj (hlegalDeviation.symm.trans hdeviation)
  have hwithin : ¬maximumChase < legalDeviation := by
    rw [lt_def, checked_eq_ok.mp hmaximum]
    exact Int.not_lt.mpr hchase
  rw [if_neg hwithin] at h
  cases h

theorem quote_on_grid {parent : ParentOrder} {policy : PassiveRepricePolicy} {u : Unit}
    (h : validateObservation parent policy prior observation = .ok u) :
    policy.tickSize.scaled ∣ (ownQuote parent.side observation).scaled := by
  simp only [validateObservation, refuseIf_eq_ok, not_or,
    not_eq_true, isOffGrid_eq_false] at h
  obtain ⟨-, -, hbid, hask, -⟩ := h
  cases parent.side with
  | buy => exact hbid
  | sell => exact hask

/-! ## Whole plans -/

/-- The run lemma: each observation goes on from the child the last one left. -/
theorem reprices_of_repriceObservations {parent : ParentOrder}
    {policy : PassiveRepricePolicy} {observations : List PassiveMarketObservation}
    (htick : 0 < policy.tickSize.scaled)
    (h : repriceObservations parent policy observations prior live
      = .ok replacements) : Reprices parent policy live observations replacements := by
  induction observations generalizing prior live replacements with
  | nil =>
    obtain rfl := Except.ok.inj h
    exact .finished live
  | cons observation rest ih =>
    simp only [repriceObservations, bind_eq_ok] at h
    obtain ⟨u, hvalid, outcome, hreprice, h⟩ := h
    have hgrid := quote_on_grid hvalid
    cases outcome with
    | none =>
      exact .skipped (not_legal_of_repriceAt htick hgrid hreprice) (ih h)
    | some price =>
      simp only [bind_eq_ok] at h
      obtain ⟨later, hlater, hall⟩ := h
      obtain rfl := Except.ok.inj hall
      exact .replaced (legal_of_repriceAt htick hgrid hreprice)
        (ih hlater)

theorem Reprices.length_le {parent : ParentOrder} {policy : PassiveRepricePolicy}
    {observations : List PassiveMarketObservation}
    (h : Reprices parent policy live observations replacements)
    (hlive : live.replacements ≤ policy.maximumReplacements) :
    live.replacements + replacements.length
      ≤ policy.maximumReplacements := by
  induction h with
  | finished live => exact hlive
  | skipped _ _ ih => exact ih hlive
  | @replaced live observation rest later price hlegal hlater ih =>
    have hrest := ih hlegal.count
    simp only [LiveChild.replaced] at hrest
    rw [length_cons]
    omega

/-- Every accepted plan starts at the initial price and holds exactly the legal
replacements of its observations. -/
theorem planPassiveRepricing_legal {parent : ParentOrder} {policy : PassiveRepricePolicy}
    {observations : List PassiveMarketObservation} {plan : PassiveRepricePlan}
    (h : planPassiveRepricing parent policy observations = .ok plan) :
    plan.initial = passiveChild parent 0 0 policy.initialLimitPrice
      ∧ Reprices parent policy (initialLive parent policy) observations
        plan.replacements
      ∧ plan.replacements.length ≤ policy.maximumReplacements := by
  simp only [planPassiveRepricing, bind_eq_ok, refuseIf_eq_ok, not_or,
    le_def, scaled_zero, Int.not_le] at h
  obtain ⟨-, -, -, ⟨-, htick, -⟩, -, -, replacements, hreplacements, hplan⟩ :=
    h
  obtain rfl := Except.ok.inj hplan
  have hreprices := reprices_of_repriceObservations htick hreplacements
  have hlength := hreprices.length_le (Nat.zero_le _)
  rw [initialLive, Nat.zero_add] at hlength
  exact ⟨rfl, hreprices, hlength⟩

/-! ## A chase up to the hard limit -/

namespace PassiveChase

def price (scaled : Int) : Decimal := (Decimal.ofScaled? scaled).getD Decimal.zero

def parent : ParentOrder :=
  ⟨"parent-1", "acct-1", "aapl", .buy, price 1000000000, some (price 10007000000)⟩

def policy : PassiveRepricePolicy := ⟨price 9990000000, price 5000000, 50, 2, 5⟩

def observations : List PassiveMarketObservation :=
  [⟨10, price 9995000000, price 10010000000⟩, ⟨12, price 10000000000,
    price 10010000000⟩, ⟨20, price 10010000000, price 10015000000⟩]

def plan : PassiveRepricePlan :=
  let first := (initialLive parent policy).replaced parent
    ⟨10, price 9995000000, price 10010000000⟩ (price 9995000000)
  ⟨passiveChild parent 0 0 (price 9990000000),
    [replacementAt parent (initialLive parent policy) ⟨10, price 9995000000,
    price 10010000000⟩ (price 9995000000), replacementAt parent first ⟨20,
    price 10010000000, price 10015000000⟩ (price 10005000000)]⟩

/-- A seller's limit between two grid prices. -/
theorem clampToLimit_seller : ∃ lowest, clampToLimit { parent with side := .sell }
    (price 5000000) (price 9995000000) = .ok lowest :=
  clampToLimit_ok (by decide)
    (show _ ∣ (price 10010000000).scaled by decide)
    (by rintro _ ⟨⟩; decide) (by rintro _ ⟨⟩; decide) _

theorem plan_legal : plan.initial = passiveChild parent 0 0 policy.initialLimitPrice
      ∧ Reprices parent policy (initialLive parent policy) observations
        plan.replacements
      ∧ plan.replacements.length ≤ policy.maximumReplacements :=
  have hplan : planPassiveRepricing parent policy observations = .ok plan := by
    decide +kernel
  planPassiveRepricing_legal hplan

end PassiveChase

end Follon.Execution
