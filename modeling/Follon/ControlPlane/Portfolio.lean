import Follon.ControlPlane.Oms

/-!
# Average-cost portfolios

One position with a single running average cost.  `applyFill` is long-only;
`applySignedFill` takes authoritative signed evidence and may cross zero.
-/

namespace Follon.ControlPlane

open Domain

structure Portfolio where
  (accountId instrumentId : String)
  (quantity averageCost realizedPnl : Decimal)
  deriving DecidableEq, Repr

namespace Portfolio

def new (accountId instrumentId : String) : Portfolio :=
  ⟨accountId, instrumentId, Decimal.zero, Decimal.zero, Decimal.zero⟩

def recoverSigned (accountId instrumentId : String)
    (quantity averageCost realizedPnl : Decimal) : Result Portfolio := do
  validateCanonicalId "portfolio account_id" accountId
  validateCanonicalId "portfolio instrument_id" instrumentId
  refuseIf (Decimal.zero ≤ quantity ∧ averageCost < Decimal.zero ∨
      quantity = Decimal.zero ∧ averageCost ≠ Decimal.zero)
    "persisted portfolio is invalid"
  pure ⟨accountId, instrumentId, quantity, averageCost, realizedPnl⟩

def recover (accountId instrumentId : String)
    (quantity averageCost realizedPnl : Decimal) : Result Portfolio := do
  refuseIf (quantity < Decimal.zero) "persisted long-only portfolio is short"
  recoverSigned accountId instrumentId quantity averageCost realizedPnl

def applyFill (portfolio : Portfolio) (fill : Fill) : Result Portfolio := do
  refuseIf (fill.instrumentId ≠ portfolio.instrumentId ∨ fill.quantity ≤ Decimal.zero)
    "fill does not match portfolio or has invalid quantity"
  match fill.side with
  | .buy => do
    let priorCost ← portfolio.averageCost.checkedMul portfolio.quantity
    let gross ← fill.price.checkedMul fill.quantity
    let fillCost ← gross.checkedAdd fill.fee
    let newQuantity ← portfolio.quantity.checkedAdd fill.quantity
    let totalCost ← priorCost.checkedAdd fillCost
    let averageCost ← totalCost.checkedDiv newQuantity
    pure { portfolio with quantity := newQuantity, averageCost }
  | .sell => do
    refuseIf (portfolio.quantity < fill.quantity)
      "first slice does not permit short positions"
    let gain ← fill.price.checkedSub portfolio.averageCost
    let grossRealized ← gain.checkedMul fill.quantity
    let netRealized ← grossRealized.checkedSub fill.fee
    let realizedPnl ← portfolio.realizedPnl.checkedAdd netRealized
    let quantity ← portfolio.quantity.checkedSub fill.quantity
    pure { portfolio with
      quantity, realizedPnl
      averageCost :=
        if quantity = Decimal.zero then Decimal.zero
        else portfolio.averageCost }

def signedQuantity (fill : Fill) : Result Decimal :=
  match fill.side with
  | .buy => .ok fill.quantity
  | .sell => Decimal.zero.checkedSub fill.quantity

def unitGain (portfolio : Portfolio) (fill : Fill) : Result Decimal :=
  if Decimal.zero < portfolio.quantity then
    fill.price.checkedSub portfolio.averageCost
  else
    portfolio.averageCost.checkedSub fill.price

def withFee (side : Side) (value fee : Decimal) : Result Decimal :=
  match side with
  | .buy => value.checkedAdd fee
  | .sell => value.checkedSub fee

/-- The average cost after a fill that closes some of `held`, all of it, or
crosses into the other side. -/
def costAfterClosing (portfolio : Portfolio) (held closed closeFee : Decimal)
    (fill : Fill) : Result Decimal :=
  if fill.quantity < held then
    pure portfolio.averageCost
  else if fill.quantity = held then
    pure Decimal.zero
  else do
    let remainingFee ← fill.fee.checkedSub closeFee
    let opened ← fill.quantity.checkedSub closed
    let openingFee ← remainingFee.checkedDiv opened
    withFee fill.side fill.price openingFee

/-- The average cost and realized profit after a fill that closes `held`. -/
def closingCost (portfolio : Portfolio) (held : Decimal) (fill : Fill) :
    Result (Decimal × Decimal) := do
  let closed := held.min fill.quantity
  let closeFee ← fill.feeShare closed
  let gain ← portfolio.unitGain fill
  let gross ← gain.checkedMul closed
  let net ← gross.checkedSub closeFee
  let realized ← portfolio.realizedPnl.checkedAdd net
  let cost ← portfolio.costAfterClosing held closed closeFee fill
  pure (cost, realized)

/-- The average cost after a fill that opens or adds to `held`. -/
def openingCost (portfolio : Portfolio) (held : Decimal) (fill : Fill) :
    Result (Decimal × Decimal) := do
  let gross ← fill.price.checkedMul fill.quantity
  let value ← withFee fill.side gross fill.fee
  let prior ← portfolio.averageCost.checkedMul held
  let total ← prior.checkedAdd value
  let quantity ← held.checkedAdd fill.quantity
  let averageCost ← total.checkedDiv quantity
  pure (averageCost, portfolio.realizedPnl)

def isClosing (quantity signed : Decimal) : Bool :=
  (Decimal.zero < quantity ∧ signed < Decimal.zero) ∨
    (quantity < Decimal.zero ∧ Decimal.zero < signed)

def signedCost (portfolio : Portfolio) (signed held : Decimal)
    (fill : Fill) : Result (Decimal × Decimal) :=
  if isClosing portfolio.quantity signed = true then
    portfolio.closingCost held fill
  else
    portfolio.openingCost held fill

def applySignedFill (portfolio : Portfolio) (fill : Fill) : Result Portfolio := do
  refuseIf (fill.instrumentId ≠ portfolio.instrumentId ∨
      fill.quantity ≤ Decimal.zero ∨ fill.price ≤ Decimal.zero ∨
      fill.fee < Decimal.zero)
    "invalid signed portfolio fill"
  let signed ← signedQuantity fill
  let held ← magnitude portfolio.quantity
  let next ← portfolio.quantity.checkedAdd signed
  let (averageCost, realizedPnl) ← portfolio.signedCost signed held fill
  -- a short's average is its net opening proceeds, which may be negative
  refuseIf (Decimal.zero < next ∧ averageCost < Decimal.zero)
    "signed portfolio cost is negative"
  pure { portfolio with quantity := next, averageCost, realizedPnl }

def applySplit (portfolio : Portfolio) (ratio : Decimal) : Result Portfolio := do
  refuseIf (ratio ≤ Decimal.zero) "split ratio must be positive"
  let quantity ← portfolio.quantity.checkedMul ratio
  let averageCost ← portfolio.averageCost.checkedDiv ratio
  refuseIf (quantity = Decimal.zero ∧ portfolio.quantity ≠ Decimal.zero)
    "split would round the held position down to nothing"
  pure { portfolio with quantity, averageCost }

end Portfolio

end Follon.ControlPlane
