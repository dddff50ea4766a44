import Follon.Domain.Identity
import Mathlib.Tactic.Ring

/-!
# Option expiry

An expired option position is closed, and a holder's and a writer's sides of
it move the same underlying units and the same cash in opposite directions.
-/

namespace Follon.Options

open Foundation Domain

def parseUtc (value : String) : Result Int := do
  validateUtcTimestamp "option UTC time" value
  match Domain.parseUtc value with
  | some instant => .ok instant
  | none => .error ⟨"invalid option UTC time"⟩

def positivePart (value : Decimal) : Decimal :=
  if value < Decimal.zero then Decimal.zero else value

inductive OptionRight where
  | call
  | put
  deriving DecidableEq

structure OptionContract where
  (optionId underlyingInstrumentId expirationAt : String)
  strike : Decimal
  right : OptionRight
  multiplier : Decimal
  (currency referenceVersion : String)
  deriving DecidableEq

namespace OptionContract

def validate (contract : OptionContract) : Result Unit := do
  validateCanonicalId "option_id" contract.optionId
  validateCanonicalId "option underlying_instrument_id"
    contract.underlyingInstrumentId
  validateUtcTimestamp "option expiration_at" contract.expirationAt
  validateCanonicalId "option reference_version" contract.referenceVersion
  refuseIf (contract.strike ≤ Decimal.zero ∨ contract.multiplier ≤ Decimal.zero
    ∨ isCurrencyCode contract.currency = false ∨ contract.referenceVersion = "")
    "option contract requires positive economics, currency, and reference version"

def intrinsicValue (contract : OptionContract) (underlyingPrice : Decimal) :
    Result Decimal := do
  refuseIf (underlyingPrice < Decimal.zero)
    "underlying scenario price cannot be negative"
  match contract.right with
  | .call => do
    let value ← underlyingPrice.checkedSub contract.strike
    pure (positivePart value)
  | .put => do
    let value ← contract.strike.checkedSub underlyingPrice
    pure (positivePart value)

end OptionContract

/-! ## Settling a position -/

inductive OptionSettlementMethod where
  | cash
  | physical
  deriving DecidableEq

inductive OptionLifecycleOutcome where
  | expired
  | exercised
  | assigned
  deriving DecidableEq

structure OptionLifecycleSettlement where
  (lifecycleEventId optionId underlyingInstrumentId : String)
  outcome : OptionLifecycleOutcome
  (optionQuantityDelta underlyingQuantityDelta cashDelta : Decimal)
  intrinsicValue : Decimal
  occurredAt : String
  deriving DecidableEq

/-- The units a holder receives, or delivers. -/
def deliveredUnits (contract : OptionContract) (units : Decimal) : Result Decimal :=
  match contract.right with
  | .call => .ok units
  | .put => Decimal.zero.checkedSub units

/-- The underlying units and the cash an exercise or an assignment moves. -/
def exerciseDeltas (contract : OptionContract) (method : OptionSettlementMethod)
    (intrinsicValue units : Decimal) : Result (Decimal × Decimal) :=
  match method with
  | .cash => do
    let cashDelta ← intrinsicValue.checkedMul units
    pure (Decimal.zero, cashDelta)
  | .physical => do
    let underlyingDelta ← deliveredUnits contract units
    let strikeCash ← underlyingDelta.checkedMul contract.strike
    let cashDelta ← Decimal.zero.checkedSub strikeCash
    pure (underlyingDelta, cashDelta)

def settleExpiredOptionPosition (lifecycleEventId : String)
    (contract : OptionContract) (signedContractQuantity underlyingPrice
      automaticExerciseThreshold : Decimal)
    (settlementMethod : OptionSettlementMethod) (occurredAt : String) :
    Result OptionLifecycleSettlement := do
  validateCanonicalId "option lifecycle_event_id" lifecycleEventId
  contract.validate
  validateUtcTimestamp "option lifecycle occurred_at" occurredAt
  let occurred ← parseUtc occurredAt
  let expiration ← parseUtc contract.expirationAt
  refuseIf (occurred < expiration ∨ signedContractQuantity = Decimal.zero
    ∨ signedContractQuantity.scaled.tmod 100000000 ≠ 0
    ∨ underlyingPrice < Decimal.zero
    ∨ automaticExerciseThreshold < Decimal.zero)
    "invalid option expiration settlement request"
  let intrinsicValue ← contract.intrinsicValue underlyingPrice
  let optionQuantityDelta ← Decimal.zero.checkedSub signedContractQuantity
  let settlement := fun outcome underlyingQuantityDelta cashDelta =>
    { lifecycleEventId, optionId := contract.optionId
      underlyingInstrumentId := contract.underlyingInstrumentId, outcome
      optionQuantityDelta, underlyingQuantityDelta, cashDelta, intrinsicValue
      occurredAt : OptionLifecycleSettlement }
  if intrinsicValue < automaticExerciseThreshold
      ∨ intrinsicValue = Decimal.zero then
    pure (settlement .expired Decimal.zero Decimal.zero)
  else do
    let outcome := if Decimal.zero < signedContractQuantity
      then OptionLifecycleOutcome.exercised else .assigned
    let units ← signedContractQuantity.checkedMul contract.multiplier
    let (underlyingQuantityDelta, cashDelta) ←
      exerciseDeltas contract settlementMethod intrinsicValue units
    pure (settlement outcome underlyingQuantityDelta cashDelta)

/-! ## What a settlement moves -/

variable {id at' : String} {contract : OptionContract}
  {quantity price threshold : Decimal} {method : OptionSettlementMethod}
  {settlement : OptionLifecycleSettlement}

/-- What an underlying unit is worth beyond the strike to the holder. -/
def OptionContract.margin (contract : OptionContract) (price : Decimal) : Int :=
  match contract.right with
  | .call => price.scaled - contract.strike.scaled
  | .put => contract.strike.scaled - price.scaled

variable {value units : Decimal}

theorem scaled_intrinsicValue (h : contract.intrinsicValue price = .ok value) :
    value.scaled = max 0 (contract.margin price) := by
  have hpositive : ∀ gain : Decimal,
      (positivePart gain).scaled = max 0 gain.scaled := by
    intro gain
    unfold positivePart
    split
    · next hlt => exact (max_eq_left (lt_def.mp hlt).le).symm
    · next hge =>
      exact (max_eq_right (not_lt.mp fun hlt => hge (lt_def.mpr hlt))).symm
  simp only [OptionContract.intrinsicValue, bind_eq_ok] at h
  obtain ⟨-, -, h⟩ := h
  unfold OptionContract.margin
  cases hright : contract.right with
  | call =>
    simp only [hright, bind_eq_ok, checkedSub_eq_ok] at h
    obtain ⟨gain, hgain, hvalue⟩ := h
    rw [← Except.ok.inj hvalue, hpositive, hgain]
  | put =>
    simp only [hright, bind_eq_ok, checkedSub_eq_ok] at h
    obtain ⟨gain, hgain, hvalue⟩ := h
    rw [← Except.ok.inj hvalue, hpositive, hgain]

/-- An exercise moves what `exerciseDeltas` says of the units, an expiry
nothing. -/
structure Moves (contract : OptionContract) (quantity price threshold : Decimal)
    (method : OptionSettlementMethod) (settlement : OptionLifecycleSettlement) :
    Prop where
  intrinsic : contract.intrinsicValue price = .ok settlement.intrinsicValue
  closes : settlement.optionQuantityDelta.scaled = -quantity.scaled
  moves : if settlement.intrinsicValue < threshold
      ∨ settlement.intrinsicValue = Decimal.zero
    then settlement.underlyingQuantityDelta = Decimal.zero ∧
      settlement.cashDelta = Decimal.zero
    else ∃ units, quantity.checkedMul contract.multiplier = .ok units ∧
      exerciseDeltas contract method settlement.intrinsicValue units
        = .ok (settlement.underlyingQuantityDelta, settlement.cashDelta)

theorem moves_of_settle (h : settleExpiredOptionPosition id contract quantity price
      threshold method at' = .ok settlement) : 0 < contract.multiplier.scaled ∧
      Moves contract quantity price threshold method settlement := by
  simp only [settleExpiredOptionPosition, bind_eq_ok] at h
  obtain ⟨-, -, _, hcontract, -, -, _, -, _, -, -, -, value, hvalue, delta, hdelta,
    h⟩ := h
  have hmultiplier : 0 < contract.multiplier.scaled := by
    simp only [OptionContract.validate, bind_eq_ok, refuseIf_eq_ok, not_or] at hcontract
    obtain ⟨-, -, -, -, -, -, -, -, -, hpositive, -⟩ := hcontract
    exact not_le.mp hpositive
  have hcloses : delta.scaled = -quantity.scaled := by
    rw [checkedSub_eq_ok.mp hdelta, scaled_zero, zero_sub]
  refine ⟨hmultiplier, ?_⟩
  split at h
  · next hexpired =>
    rw [← Except.ok.inj h]
    exact ⟨hvalue, hcloses, by rw [if_pos hexpired]; exact ⟨rfl, rfl⟩⟩
  · next hopen =>
    simp only [bind_eq_ok] at h
    obtain ⟨units, hunits, deltas, hdeltas, h⟩ := h
    rw [← Except.ok.inj h]
    exact ⟨hvalue, hcloses, by rw [if_neg hopen]; exact ⟨units, hunits, hdeltas⟩⟩

theorem checkedMul_opposite {a b c d e : Decimal} (hd : a.checkedMul c = .ok d)
    (he : b.checkedMul c = .ok e) (h : b.scaled = -a.scaled) : e.scaled = -d.scaled := by
  rw [scaled_of_checkedMul hd, scaled_of_checkedMul he, h, neg_mul, Int.neg_tdiv]

theorem deliveredUnits_eq {delta : Decimal}
    (h : deliveredUnits contract units = .ok delta) :
    delta.scaled = match contract.right with
      | .call => units.scaled
      | .put => -units.scaled := by
  unfold deliveredUnits at h
  cases hright : contract.right with
  | call =>
    rw [hright] at h
    rw [Except.ok.inj h]
  | put =>
    rw [hright] at h
    rw [checkedSub_eq_ok.mp h, scaled_zero, zero_sub]

theorem exerciseDeltas_opposite {units' : Decimal} {deltas deltas' : Decimal × Decimal}
    (h : exerciseDeltas contract method value units = .ok deltas)
    (h' : exerciseDeltas contract method value units' = .ok deltas')
    (hunits : units'.scaled = -units.scaled) :
    deltas'.1.scaled = -deltas.1.scaled ∧ deltas'.2.scaled = -deltas.2.scaled := by
  cases method with
  | cash =>
    simp only [exerciseDeltas, bind_eq_ok] at h h'
    obtain ⟨cash, hcash, h⟩ := h
    obtain ⟨cash', hcash', h'⟩ := h'
    rw [← Except.ok.inj h, ← Except.ok.inj h']
    refine ⟨rfl, ?_⟩
    rw [scaled_of_checkedMul hcash, scaled_of_checkedMul hcash', hunits,
      mul_neg, Int.neg_tdiv]
  | physical =>
    simp only [exerciseDeltas, bind_eq_ok, checkedSub_eq_ok] at h h'
    obtain ⟨delta, hdelta, strikeCash, hstrike, cash, hcash, h⟩ := h
    obtain ⟨delta', hdelta', strikeCash', hstrike', cash', hcash', h'⟩ := h'
    have hopposite : delta'.scaled = -delta.scaled := by
      rw [deliveredUnits_eq hdelta, deliveredUnits_eq hdelta', hunits]
      split <;> rfl
    rw [← Except.ok.inj h, ← Except.ok.inj h']
    refine ⟨hopposite, ?_⟩
    change cash'.scaled = -cash.scaled
    rw [hcash, hcash', checkedMul_opposite hstrike hstrike' hopposite, scaled_zero]
    omega

/-- The products of an exercise lose nothing. -/
def ExactProducts (contract : OptionContract) (quantity price : Decimal) : Prop :=
  ∀ units value, quantity.checkedMul contract.multiplier = .ok units →
    contract.intrinsicValue price = .ok value →
      units.ExactMul contract.strike ∧ value.ExactMul units

theorem physical_worth_cash {physical cash : Decimal × Decimal}
    (hvalue : value.scaled = contract.margin price)
    (hphysical : exerciseDeltas contract .physical value units = .ok physical)
    (hcash : exerciseDeltas contract .cash value units = .ok cash)
    (hstrike : units.ExactMul contract.strike) (hintrinsic : value.ExactMul units) :
    physical.2.scaled * Decimal.scale + physical.1.scaled * price.scaled
      = cash.2.scaled * Decimal.scale := by
  simp only [exerciseDeltas, bind_eq_ok, checkedSub_eq_ok] at hphysical hcash
  obtain ⟨delta, hdelta, strikeCash, hproduct, paid, hpaid, h⟩ := hphysical
  obtain ⟨received, hreceived, h'⟩ := hcash
  rw [← Except.ok.inj h, ← Except.ok.inj h']
  change paid.scaled * _ + delta.scaled * _ = received.scaled * _
  rw [hintrinsic.scaled hreceived, hpaid, hvalue, scaled_zero, zero_sub, neg_mul]
  have hdelivered := deliveredUnits_eq hdelta
  have hexact : delta.ExactMul contract.strike := by
    unfold Decimal.ExactMul
    rw [hdelivered]
    split
    · exact hstrike
    · rw [neg_mul]
      exact (Int.dvd_neg).mpr hstrike
  rw [hexact.scaled hproduct, hdelivered, OptionContract.margin]
  split <;> ring

/-- The position is closed, the two sides of it are opposite, and delivery is
worth the cash a holder is paid, which is never negative. -/
structure ConservesValue (contract : OptionContract)
    (quantity price threshold : Decimal) : Prop where
  closes : ∀ id method at' settlement,
    settleExpiredOptionPosition id contract quantity price threshold method at'
        = .ok settlement →
      settlement.optionQuantityDelta.scaled + quantity.scaled = 0
  opposite : ∀ id id' method time time' written holder writer,
    written.scaled = -quantity.scaled →
    settleExpiredOptionPosition id contract quantity price threshold method time
        = .ok holder →
    settleExpiredOptionPosition id' contract written price threshold method time'
        = .ok writer →
      writer.optionQuantityDelta.scaled = -holder.optionQuantityDelta.scaled ∧
      writer.underlyingQuantityDelta.scaled = -holder.underlyingQuantityDelta.scaled ∧
      writer.cashDelta.scaled = -holder.cashDelta.scaled
  delivery : ExactProducts contract quantity price → ∀ id id' time time' physical cash,
    settleExpiredOptionPosition id contract quantity price threshold .physical time
        = .ok physical →
    settleExpiredOptionPosition id' contract quantity price threshold .cash time'
        = .ok cash →
      physical.cashDelta.scaled * Decimal.scale
          + physical.underlyingQuantityDelta.scaled * price.scaled
        = cash.cashDelta.scaled * Decimal.scale
  paid : 0 < quantity.scaled → ∀ id time cash,
    settleExpiredOptionPosition id contract quantity price threshold .cash time
        = .ok cash → 0 ≤ cash.cashDelta.scaled

theorem expiry_conserves_value (contract : OptionContract)
    (quantity price threshold : Decimal) :
    ConservesValue contract quantity price threshold := by
  refine ⟨?_, ?_, ?_, ?_⟩
  · intro id method at' settlement h
    rw [(moves_of_settle h).2.closes]
    omega
  · intro id id' method time time' written holder writer hwritten hholder hwriter
    have hmoves := (moves_of_settle hholder).2
    have hmoves' := (moves_of_settle hwriter).2
    have hvalue : writer.intrinsicValue = holder.intrinsicValue :=
      Except.ok.inj (hmoves'.intrinsic.symm.trans hmoves.intrinsic)
    refine ⟨by rw [hmoves.closes, hmoves'.closes, hwritten], ?_⟩
    have hdeltas := hmoves.moves
    have hdeltas' := hmoves'.moves
    rw [hvalue] at hdeltas'
    split at hdeltas
    · rw [if_pos ‹_›] at hdeltas'
      rw [hdeltas.1, hdeltas.2, hdeltas'.1, hdeltas'.2]
      exact ⟨rfl, rfl⟩
    · rw [if_neg ‹_›] at hdeltas'
      obtain ⟨units, hunits, hdeltas⟩ := hdeltas
      obtain ⟨units', hunits', hdeltas'⟩ := hdeltas'
      exact exerciseDeltas_opposite hdeltas hdeltas'
        (checkedMul_opposite hunits hunits' hwritten)
  · intro hexact id id' time time' physical cash hphysical hcash
    have hmoves := (moves_of_settle hphysical).2
    have hmoves' := (moves_of_settle hcash).2
    have hvalue : cash.intrinsicValue = physical.intrinsicValue :=
      Except.ok.inj (hmoves'.intrinsic.symm.trans hmoves.intrinsic)
    have hdeltas := hmoves.moves
    have hdeltas' := hmoves'.moves
    rw [hvalue] at hdeltas'
    split at hdeltas
    · rw [if_pos ‹_›] at hdeltas'
      rw [hdeltas.1, hdeltas.2, hdeltas'.2, scaled_zero]
      omega
    · next hopen =>
      rw [if_neg hopen] at hdeltas'
      obtain ⟨units, hunits, hdeltas⟩ := hdeltas
      obtain ⟨units', hunits', hdeltas'⟩ := hdeltas'
      obtain rfl := Except.ok.inj (hunits.symm.trans hunits')
      have hmargin := scaled_intrinsicValue hmoves.intrinsic
      have hnonzero : physical.intrinsicValue.scaled ≠ 0 :=
        fun hzero => hopen (.inr (Decimal.ext hzero))
      obtain ⟨hstrike, hintrinsic⟩ := hexact units _ hunits hmoves.intrinsic
      exact physical_worth_cash (by omega) hdeltas hdeltas' hstrike hintrinsic
  · intro hholder id time cash h
    obtain ⟨hmultiplier, hmoves⟩ := moves_of_settle h
    have hdeltas := hmoves.moves
    split at hdeltas
    · rw [hdeltas.2, scaled_zero]
    · obtain ⟨units, hunits, hdeltas⟩ := hdeltas
      simp only [exerciseDeltas, bind_eq_ok] at hdeltas
      obtain ⟨received, hreceived, hdeltas⟩ := hdeltas
      obtain ⟨-, rfl⟩ := Prod.mk.inj (Except.ok.inj hdeltas)
      have hscale : (0 : Int) ≤ Decimal.scale := by decide
      rw [scaled_of_checkedMul hreceived, scaled_intrinsicValue hmoves.intrinsic,
        scaled_of_checkedMul hunits]
      exact Int.tdiv_nonneg (mul_nonneg (le_max_left _ _)
        (Int.tdiv_nonneg (mul_nonneg hholder.le hmultiplier.le) hscale)) hscale

end Follon.Options
