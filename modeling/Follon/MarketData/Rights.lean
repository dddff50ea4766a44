import Follon.Domain.Failure
import Follon.Foundation.ShortIds

/-!
# Data rights and semantics receipts

A receipt certifies the licence tier, the corporate-action policy and the
semantic parity of a dataset.
-/

namespace Follon.MarketData

open Foundation Domain

inductive LicenseTier where
  | internalResearchOnly
  | commercialReplay
  | enterpriseRedistributable
  deriving DecidableEq

inductive CorporateActionPolicy where
  | rawSplitAndDividendAdjusted
  | rawUnadjusted
  | splitAdjustedOnly
  deriving DecidableEq

structure DataRightsAndSemanticsReceipt where
  receiptSchemaVersion : UInt32
  (receiptId providerId datasetId : String)
  licenseTier : LicenseTier
  redistributionPermitted : Bool
  corporateActionPolicy : CorporateActionPolicy
  semanticParityScoreBps : UInt32
  (verifiedAt expiresAt : String)
  deriving DecidableEq

structure ReceiptRequest where
  (providerId datasetId : String)
  licenseTier : LicenseTier
  corporateActionPolicy : CorporateActionPolicy
  semanticParityScoreBps : UInt32
  (verifiedAt expiresAt : String)
  deriving DecidableEq

def receiptText (providerId datasetId verifiedAt : String) : String :=
  providerId ++ ":" ++ datasetId ++ ":" ++ verifiedAt

def certifyReceipt [ContentHash] (request : ReceiptRequest) :
    Result DataRightsAndSemanticsReceipt := do
  refuseIf (10000 < request.semanticParityScoreBps)
    "semantic parity score cannot exceed 10000 basis points"
  pure
    { receiptSchemaVersion := 1
      receiptId := shortId "drsr."
        (receiptText request.providerId request.datasetId request.verifiedAt)
      providerId := request.providerId
      datasetId := request.datasetId
      licenseTier := request.licenseTier
      redistributionPermitted :=
        request.licenseTier == .enterpriseRedistributable
      corporateActionPolicy := request.corporateActionPolicy
      semanticParityScoreBps := request.semanticParityScoreBps
      verifiedAt := request.verifiedAt
      expiresAt := request.expiresAt }

theorem certifyReceipt_eq_ok [ContentHash] {request : ReceiptRequest}
    {receipt : DataRightsAndSemanticsReceipt}
    (h : certifyReceipt request = .ok receipt) : receipt =
      { receiptSchemaVersion := 1
        receiptId := shortId "drsr."
          (receiptText request.providerId request.datasetId request.verifiedAt)
        providerId := request.providerId
        datasetId := request.datasetId
        licenseTier := request.licenseTier
        redistributionPermitted :=
          request.licenseTier == .enterpriseRedistributable
        corporateActionPolicy := request.corporateActionPolicy
        semanticParityScoreBps := request.semanticParityScoreBps
        verifiedAt := request.verifiedAt
        expiresAt := request.expiresAt } := by
  obtain ⟨_, -, hreceipt⟩ := bind_eq_ok.mp h
  exact (Except.ok.inj hreceipt).symm

/-- A receipt's id tells it apart exactly where the provider, the dataset and
the time of verification do. -/
theorem receiptId_apart_iff [ContentHash] {request request' : ReceiptRequest}
    {receipt receipt' : DataRightsAndSemanticsReceipt}
    (h : certifyReceipt request = .ok receipt)
    (h' : certifyReceipt request' = .ok receipt') (hdigest : TellsApart
      (receiptText request.providerId request.datasetId request.verifiedAt)
      (receiptText request'.providerId request'.datasetId request'.verifiedAt)) :
    (receipt ≠ receipt' → receipt.receiptId ≠ receipt'.receiptId) ↔ request = request' ∨
        receiptText request.providerId request.datasetId request.verifiedAt ≠
          receiptText request'.providerId request'.datasetId
            request'.verifiedAt := by
  have hreceipt := certifyReceipt_eq_ok h
  have hreceipt' := certifyReceipt_eq_ok h'
  refine @names_apart_iff _ _ DataRightsAndSemanticsReceipt.receiptId _ _ _
    "drsr." _ _ hdigest (by rw [hreceipt]) (by rw [hreceipt']) ?_
  constructor
  · intro hsame
    rw [hreceipt, hreceipt', DataRightsAndSemanticsReceipt.mk.injEq] at hsame
    obtain ⟨-, -, hprovider, hdataset, htier, -, hpolicy, hparity, hverified,
      hexpires⟩ := hsame
    cases request
    cases request'
    simp_all
  · rintro rfl
    rw [hreceipt, hreceipt']

end Follon.MarketData
