import Follon.Domain.Order

/-!
# Option combinations

The planner of a synchronized combination checks legs, ratios and net price as
the intent it is made from does, and computes a contract quantity for each leg,
which the intent does not.
-/

namespace Follon.Execution

open Foundation Domain

structure OptionComboLeg where
  instrumentId : String
  side : Side
  ratio : Nat
  limitPrice : Decimal
  deriving DecidableEq

structure ComboLegInstruction where
  (childOrderId instrumentId : String)
  side : Side
  (quantity limitPrice : Decimal)
  deriving DecidableEq

structure OptionComboPlan where
  comboId : String
  (comboQuantity protectedNetPrice : Decimal)
  legs : List ComboLegInstruction
  deriving DecidableEq

def legId (comboId : String) (index : Nat) : String :=
  comboId ++ String.ofList (".leg.".toList ++ zeroPadded 4 (index + 1))

def addNet (side : Side) (net legNet : Decimal) : Result Decimal :=
  match side with
  | .buy => net.checkedAdd legNet
  | .sell => net.checkedSub legNet

/-- The loop over the legs: the instruments seen, the net price, and the
instructions from `index` on. -/
def planLegs (comboId : String) (comboQuantity : Decimal) :
    List OptionComboLeg → (index : Nat) → (instruments : List String) →
      (net : Decimal) → Result (Decimal × List ComboLegInstruction)
  | [], _, _, net => .ok (net, [])
  | leg :: rest, index, instruments, net => do
    validateCanonicalId "combo instrument_id" leg.instrumentId
    refuseIf (leg.instrumentId ∈ instruments ∨ leg.ratio = 0
      ∨ 10000 < leg.ratio ∨ leg.limitPrice ≤ Decimal.zero)
      "invalid option combination leg"
    let ratio ← Decimal.fromInteger leg.ratio
    let legNet ← leg.limitPrice.checkedMul ratio
    let net ← addNet leg.side net legNet
    let quantity ← comboQuantity.checkedMul ratio
    let (net, instructions) ← planLegs comboId comboQuantity rest
      (index + 1) (instruments ++ [leg.instrumentId]) net
    let instruction : ComboLegInstruction :=
      { childOrderId := legId comboId index, instrumentId := leg.instrumentId
        side := leg.side, quantity := quantity, limitPrice := leg.limitPrice }
    pure (net, instruction :: instructions)

def planOptionCombo (comboId : String) (comboQuantity : Decimal)
    (priceLimit : ComboPriceLimit) (legs : List OptionComboLeg) :
    Result OptionComboPlan := do
  validateCanonicalId "combo_id" comboId
  refuseIf (comboQuantity ≤ Decimal.zero
    ∨ ¬(2 ≤ legs.length ∧ legs.length ≤ 16)) "invalid option combination"
  let (protectedNetPrice, instructions) ←
    planLegs comboId comboQuantity legs 0 [] Decimal.zero
  priceLimit.checkNetPrice protectedNetPrice
  pure
    { comboId := comboId, comboQuantity := comboQuantity
      protectedNetPrice := protectedNetPrice, legs := instructions }

/-! ## What both check -/

def optionLeg (leg : ComboIntentLeg) : OptionComboLeg :=
  ⟨leg.instrumentId, leg.side, leg.ratio, leg.limitPrice⟩

structure LegValid (leg : ComboIntentLeg) : Prop where
  instrumentId : isCanonicalId leg.instrumentId = true
  ratio : 1 ≤ leg.ratio ∧ leg.ratio ≤ 10000
  limitPrice : 0 < leg.limitPrice.scaled

def QuantityFits (comboQuantity : Decimal) (leg : ComboIntentLeg) : Prop :=
  comboQuantity.scaled * (leg.ratio * Decimal.scale) ≤ i128Max

instance (comboQuantity : Decimal) (leg : ComboIntentLeg) :
    Decidable (QuantityFits comboQuantity leg) :=
  inferInstanceAs (Decidable (_ ≤ _))

/-- The checks the intent and the planner share: legs, quantity, and the net
price within its protection. -/
structure Protected (legs : List ComboIntentLeg) (comboQuantity : Decimal)
    (priceLimit : ComboPriceLimit) : Prop where
  quantity : 0 < comboQuantity.scaled
  size : 2 ≤ legs.length ∧ legs.length ≤ 16
  valid : ∀ leg ∈ legs, LegValid leg
  distinct : (legs.map ComboIntentLeg.instrumentId).Nodup
  net : ∃ net, legs.foldlM ComboIntent.addLegNet Decimal.zero = .ok net
    ∧ priceLimit.checkNetPrice net = .ok ()

variable {net comboQuantity : Decimal} {u : Unit} {seen : List String}
  {legs : List ComboIntentLeg} {comboId : String}

theorem amount_pos_of_checkNetPrice {limit : ComboPriceLimit}
    (h : limit.checkNetPrice net = .ok u) : 0 < limit.amount.scaled := by
  cases limit with
  | maximumDebit amount =>
    simp only [ComboPriceLimit.checkNetPrice, refuseIf_eq_ok, not_or,
      le_def, scaled_zero, Int.not_le] at h
    exact h.1
  | minimumCredit amount =>
    simp only [ComboPriceLimit.checkNetPrice, bind_eq_ok, refuseIf_eq_ok,
      not_or, le_def, scaled_zero, Int.not_le] at h
    obtain ⟨_, -, hamount, -⟩ := h
    exact hamount

theorem validateLegs_eq_ok : ComboIntent.validateLegs seen legs = .ok u ↔
      (∀ leg ∈ legs, LegValid leg ∧ leg.instrumentId ∉ seen)
        ∧ (legs.map ComboIntentLeg.instrumentId).Nodup := by
  induction legs generalizing seen with
  | nil => simp [ComboIntent.validateLegs, pure, Except.pure]
  | cons leg rest ih =>
    simp only [ComboIntent.validateLegs, bind_eq_ok, refuseIf_eq_ok, ih,
      validateCanonicalId_eq_ok, exists_const, not_or, Nat.not_lt, le_def, scaled_zero,
      Int.not_le, forall_mem_cons, map_cons, nodup_cons, mem_append,
      mem_singleton, mem_map, not_exists, not_and]
    constructor
    · rintro ⟨hid, hnew, hratio, hprice, hrest, hdistinct⟩
      exact ⟨⟨⟨⟨hid, hratio, hprice⟩, hnew⟩,
        fun other hother => ⟨(hrest other hother).1,
          (hrest other hother).2.1⟩⟩,
        fun other hother => (hrest other hother).2.2, hdistinct⟩
    · rintro ⟨⟨⟨hleg, hnew⟩, hrest⟩, hfresh, hdistinct⟩
      exact ⟨hleg.instrumentId, hnew, hleg.ratio, hleg.limitPrice,
        fun other hother => ⟨(hrest other hother).1,
          (hrest other hother).2, hfresh other hother⟩, hdistinct⟩

structure Enveloped (intent : ComboIntent) : Prop where
  intentId : isCanonicalId intent.intentId = true
  accountId : isCanonicalId intent.accountId = true
  strategyId : isCanonicalId intent.strategyId = true
  correlationId : isCanonicalId intent.correlationId = true
  createdAt : isUtcTimestamp intent.createdAt = true
  rationale : intent.rationale.isEmpty = false

theorem comboIntent_validate_eq_ok {intent : ComboIntent}
    (henvelope : Enveloped intent) : intent.validate = .ok u ↔
      Protected intent.legs intent.comboQuantity intent.priceLimit := by
  simp only [ComboIntent.validate, bind_eq_ok, validateCanonicalId_eq_ok,
    validateUtcTimestamp_eq_ok, refuseIf_eq_ok, validateLegs_eq_ok, exists_const, not_or,
    Nat.not_lt, le_def, scaled_zero, Int.not_le, not_mem_nil, not_false_iff, and_true]
  constructor
  · rintro ⟨-, -, -, -, -, ⟨hquantity, -⟩, hsize, ⟨hlegs, hdistinct⟩, -, net,
      hnet, hlimit⟩
    exact ⟨hquantity, hsize, hlegs, hdistinct, net, hnet, hlimit⟩
  · rintro ⟨hquantity, hsize, hlegs, hdistinct, net, hnet, hlimit⟩
    exact ⟨henvelope.intentId, henvelope.accountId, henvelope.strategyId,
      henvelope.correlationId, henvelope.createdAt,
      ⟨hquantity, by rw [henvelope.rationale]; exact Bool.false_ne_true⟩,
      hsize, ⟨hlegs, hdistinct⟩, amount_pos_of_checkNetPrice hlimit, net,
      hnet, hlimit⟩

/-! ## What the planner adds -/

theorem checkedMul_ratio_iff {ratio : Decimal} {leg : ComboIntentLeg}
    (hquantity : 0 < comboQuantity.scaled)
    (hratio : ratio.scaled = leg.ratio * Decimal.scale) :
    (∃ quantity, comboQuantity.checkedMul ratio = .ok quantity) ↔
      QuantityFits comboQuantity leg := by
  rw [QuantityFits, ← hratio]
  constructor
  · rintro ⟨quantity, h⟩
    exact Decimal.le_max_of_checkedMul h
  · intro hfits
    have hnonneg : 0 ≤ ratio.scaled := by
      rw [hratio]
      exact Int.mul_nonneg (Int.natCast_nonneg _) (by decide)
    obtain ⟨quantity, h, -⟩ := Decimal.checkedMul_ok
      (Int.mul_nonneg (Int.le_of_lt hquantity) hnonneg) hfits
    exact ⟨quantity, h⟩

theorem addLegNet_eq_ok {net' : Decimal} {leg : ComboIntentLeg} :
    ComboIntent.addLegNet net leg = .ok net' ↔
      ∃ ratio legNet, Decimal.fromInteger leg.ratio = .ok ratio
        ∧ leg.limitPrice.checkedMul ratio = .ok legNet
        ∧ addNet leg.side net legNet = .ok net' := by
  simp only [ComboIntent.addLegNet, bind_eq_ok, addNet]
  constructor
  · rintro ⟨ratio, hratio, legNet, hlegNet, hnet⟩
    exact ⟨ratio, legNet, hratio, hlegNet, hnet⟩
  · rintro ⟨ratio, legNet, hratio, hlegNet, hnet⟩
    exact ⟨ratio, hratio, legNet, hlegNet, hnet⟩

/-- The planner's loop goes through when the legs pass the intent's checks,
their net price computes, and every contract quantity does. -/
theorem planLegs_eq_ok {final : Decimal} {index : Nat}
    (hquantity : 0 < comboQuantity.scaled) :
    (∃ instructions, planLegs comboId comboQuantity (legs.map optionLeg) index
        seen net = .ok (final, instructions)) ↔
      ComboIntent.validateLegs seen legs = .ok ()
        ∧ legs.foldlM ComboIntent.addLegNet net = .ok final
        ∧ ∀ leg ∈ legs, QuantityFits comboQuantity leg := by
  induction legs generalizing index seen net with
  | nil =>
    simp [planLegs, ComboIntent.validateLegs, pure, Except.pure]
  | cons leg rest ih =>
    have hchecks : (leg.instrumentId ∈ seen ∨ leg.ratio = 0
        ∨ 10000 < leg.ratio ∨ leg.limitPrice ≤ Decimal.zero) ↔
        (leg.instrumentId ∈ seen ∨ (leg.ratio < 1 ∨ 10000 < leg.ratio)
          ∨ leg.limitPrice ≤ Decimal.zero) := by
      rw [Nat.lt_one_iff, or_assoc]
    simp only [map_cons, planLegs, ComboIntent.validateLegs, foldlM_cons,
      bind_eq_ok, validateCanonicalId_eq_ok, refuseIf_eq_ok, exists_const,
      forall_mem_cons, optionLeg, addLegNet_eq_ok, hchecks, not_or]
    constructor
    · rintro ⟨instructions, hid, ⟨hnew, hratioIn, hprice⟩, ratio, hratio, legNet,
        hlegNet, after, hafter, quantity, hproduct, ⟨_, planned⟩, hplanned, heq⟩
      obtain ⟨rfl, -⟩ := Prod.mk.inj (Except.ok.inj heq)
      obtain ⟨hvalid, hnet, hfits⟩ := ih.mp ⟨planned, hplanned⟩
      have hfit := (checkedMul_ratio_iff hquantity
        (checked_eq_ok.mp hratio)).mp ⟨quantity, hproduct⟩
      exact ⟨⟨hid, hnew, hratioIn, hprice, hvalid⟩,
        ⟨after, ⟨ratio, legNet, hratio, hlegNet, hafter⟩, hnet⟩, hfit, hfits⟩
    · rintro ⟨⟨hid, hnew, hratioIn, hprice, hvalid⟩,
        ⟨after, ⟨ratio, legNet, hratio, hlegNet, hafter⟩, hnet⟩, hfit, hfits⟩
      obtain ⟨quantity, hproduct⟩ := (checkedMul_ratio_iff hquantity
        (checked_eq_ok.mp hratio)).mpr hfit
      obtain ⟨planned, hplanned⟩ := ih.mpr ⟨hvalid, hnet, hfits⟩
      exact ⟨_, hid, ⟨hnew, hratioIn, hprice⟩, ratio, hratio, legNet, hlegNet, after,
        hafter, quantity, hproduct, (final, planned), hplanned, rfl⟩

/-- The planner takes exactly the protected combinations whose contract
quantities all compute. -/
theorem planOptionCombo_ok_iff (hid : isCanonicalId comboId = true)
    {priceLimit : ComboPriceLimit} :
    (∃ plan, planOptionCombo comboId comboQuantity priceLimit
        (legs.map optionLeg) = .ok plan) ↔
      Protected legs comboQuantity priceLimit
        ∧ ∀ leg ∈ legs, QuantityFits comboQuantity leg := by
  simp only [planOptionCombo, bind_eq_ok, validateCanonicalId_eq_ok, refuseIf_eq_ok,
    exists_const, not_or, not_not, List.length_map, le_def, scaled_zero, Int.not_le]
  constructor
  · rintro ⟨plan, -, ⟨hquantity, hsize⟩, ⟨net, instructions⟩, hplanned, _, hlimit, -⟩
    obtain ⟨hvalid, hnet, hfits⟩ :=
      (planLegs_eq_ok hquantity).mp ⟨instructions, hplanned⟩
    obtain ⟨hlegs, hdistinct⟩ := validateLegs_eq_ok.mp hvalid
    exact ⟨⟨hquantity, hsize, fun leg hleg => (hlegs leg hleg).1, hdistinct,
      net, hnet, hlimit⟩, hfits⟩
  · rintro ⟨⟨hquantity, hsize, hlegs, hdistinct, net, hnet, hlimit⟩, hfits⟩
    have hvalid : ComboIntent.validateLegs [] legs = .ok () :=
      validateLegs_eq_ok.mpr
        ⟨fun leg hleg => ⟨hlegs leg hleg, not_mem_nil⟩, hdistinct⟩
    obtain ⟨instructions, hplanned⟩ :=
      (planLegs_eq_ok hquantity).mpr ⟨hvalid, hnet, hfits⟩
    exact ⟨_, hid, ⟨hquantity, hsize⟩, (net, instructions), hplanned, (), hlimit, rfl⟩

/-- The intent and the planner judge a combination alike unless it passes
every check they share and a contract quantity overflows. -/
theorem combo_validation_agrees_iff {intent : ComboIntent} {comboId : String}
    (henvelope : Enveloped intent) (hid : isCanonicalId comboId = true) :
    (intent.validate = .ok () ↔
        ∃ plan, planOptionCombo comboId intent.comboQuantity intent.priceLimit
          (intent.legs.map optionLeg) = .ok plan) ↔
      ((∀ leg ∈ intent.legs, QuantityFits intent.comboQuantity leg) ∨
        ¬Protected intent.legs intent.comboQuantity intent.priceLimit) := by
  rw [comboIntent_validate_eq_ok henvelope, planOptionCombo_ok_iff hid]
  constructor
  · intro hagree
    by_cases hprotected :
        Protected intent.legs intent.comboQuantity intent.priceLimit
    · exact .inl (hagree.mp hprotected).2
    · exact .inr hprotected
  · rintro (hfits | hrefused)
    · exact (and_iff_left hfits).symm
    · exact ⟨fun hprotected => absurd hprotected hrefused, fun h => h.1⟩

/-! ## A vertical spread -/

namespace Spread

def leg (instrumentId : String) (side : Side) (price : Decimal) : ComboIntentLeg :=
  ⟨instrumentId, side, 1, price⟩

def intent (comboQuantity : Decimal) : ComboIntent where
  intentId := "combo-1"
  accountId := "acct-1"
  strategyId := "strategy-1"
  correlationId := "correlation-1"
  legs := [leg "spy-call-500" .buy .two,
    leg "spy-call-510" .sell .one]
  comboQuantity := comboQuantity
  priceLimit := .maximumDebit .five
  timeInForce := .day
  rationale := "spread"
  createdAt := "2026-01-05T14:30:00Z"
  strategyVersion := "v1"
  configurationVersion := "v1"
  environment := "PAPER"

theorem intent_enveloped (comboQuantity : Decimal) :
    Enveloped (intent comboQuantity) where
  intentId := (by decide : isCanonicalId "combo-1" = true)
  accountId := (by decide : isCanonicalId "acct-1" = true)
  strategyId := (by decide : isCanonicalId "strategy-1" = true)
  correlationId := (by decide : isCanonicalId "correlation-1" = true)
  createdAt := (by decide : isUtcTimestamp "2026-01-05T14:30:00Z" = true)
  rationale := (by decide : "spread".isEmpty = false)

def threeUnits : Decimal := .three

theorem threeUnits_agrees_iff : ((intent threeUnits).validate = .ok () ↔
        ∃ plan, planOptionCombo "combo-1" (intent threeUnits).comboQuantity
          (intent threeUnits).priceLimit
          ((intent threeUnits).legs.map optionLeg) = .ok plan) ↔
      ((∀ leg ∈ (intent threeUnits).legs,
          QuantityFits (intent threeUnits).comboQuantity leg) ∨
        ¬Protected (intent threeUnits).legs (intent threeUnits).comboQuantity
          (intent threeUnits).priceLimit) :=
  combo_validation_agrees_iff (intent_enveloped threeUnits) (by decide)

def hugeQuantity : Decimal := .greatest

/-- A quantity that fits nowhere beside a ratio passes the intent's checks. -/
theorem hugeQuantity_passes_one :
    ¬∀ (intent : ComboIntent) (comboId : String), Enveloped intent →
      isCanonicalId comboId = true →
      (intent.validate = .ok () ↔
        ∃ plan, planOptionCombo comboId intent.comboQuantity intent.priceLimit
          (intent.legs.map optionLeg) = .ok plan) := by
  intro h
  have hvalid : (intent hugeQuantity).validate = .ok () := by
    decide
  have hrefused : (planOptionCombo "combo-1" hugeQuantity
      (intent hugeQuantity).priceLimit
      ((intent hugeQuantity).legs.map optionLeg)).toOption = none := by
    decide
  obtain ⟨plan, hplan⟩ := (h (intent hugeQuantity) "combo-1"
    (intent_enveloped hugeQuantity) (by decide)).mp hvalid
  have hsome := congrArg Except.toOption hplan
  exact Option.some_ne_none plan (hsome.symm.trans hrefused)

end Spread

end Follon.Execution
