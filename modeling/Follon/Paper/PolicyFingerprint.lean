import Follon.Foundation.Digest
import Follon.Foundation.JoinedTexts
import Follon.Paper.Service

/-!
# The configuration fingerprint

Every part of the configuration enters one digest behind its byte length, so
the digest input determines the parts.  The digest itself is a parameter.
-/

namespace Follon.Paper

open Foundation Domain Risk

def hashFingerprintParts [ContentHash] (parts : List String) : String :=
  ContentHash.hexDigest (parts.flatMap lengthPrefixed)

def renderBucket (entry : String × InstrumentBucket) : String :=
  entry.1 ++ ":" ++ entry.2.assetClass ++ ":" ++ entry.2.currency ++ ":" ++ entry.2.sector

def renderRate (entry : String × Accounting.MarginRate) : String :=
  entry.1 ++ ":" ++ toString entry.2.initialBps ++ ":" ++ toString entry.2.maintenanceBps

def portfolioRiskFingerprintParts (composition : PortfolioRiskComposition) :
    List String :=
  composition.policy.canonicalParts ++ ["instrument_buckets=" ++
        joinWith "|" (composition.instrumentBuckets.toList.map renderBucket),
      "margin_rates=" ++
        match composition.marginRates with
        | some rates => joinWith "|" (rates.toList.map renderRate)
        | none => "none"]

def renderInstrumentTable (table : OrderedMap String Decimal) : String :=
  joinWith "|" (table.toList.map fun entry =>
    entry.1 ++ ":" ++ entry.2.display)

namespace Configuration

def shortExposureParts (config : Configuration) : List String :=
  match config.riskPolicy.shortExposure with
  | some permission =>
    ["paper-short-exposure-v1", permission.maxShortQuantity.display]
  | none => []

def routeParts (config : Configuration) : List String :=
  if config.brokerRouteFingerprint.isEmpty then
    []
  else
    ["paper-broker-route-fingerprint-v1", config.brokerRouteFingerprint]

def portfolioRiskParts (config : Configuration) : List String :=
  match config.riskPolicy.portfolioRisk with
  | some composition =>
    "paper-portfolio-risk-v2" :: portfolioRiskFingerprintParts composition
  | none => []

def fingerprintParts (config : Configuration)
    (killSwitchVersion : String) : List String :=
  let policy := config.riskPolicy
  ["paper-configuration-v3", config.account.accountId, config.account.currency,
    config.account.initialCash.display, config.account.environment,
    policy.version, policy.tradingCalendarId, policy.maxOrderQuantity.display,
    policy.maxOrderNotional.display, policy.maxPriceDeviationBps.display,
    toString policy.maxOpenOrders, policy.maxPositionQuantity.display,
    policy.maxRealizedLoss.display, toString policy.maxMarketDataAgeSeconds,
    toString policy.maxOrderRate, toString policy.orderRateWindowSeconds,
    killSwitchVersion] ++
    config.shortExposureParts ++ config.routeParts ++
    config.portfolioRiskParts ++
    ["paper-instrument-ticks-v1", renderInstrumentTable policy.instrumentTickSizes,
      "paper-instrument-lots-v1",
      renderInstrumentTable policy.instrumentLotSizes]

end Configuration

def ServiceRecord.configurationFingerprint [ContentHash]
    (record : ServiceRecord) : String :=
  hashFingerprintParts
    (record.toConfiguration.fingerprintParts record.killSwitches.version)

end Follon.Paper

/-!
## What the policy fingerprint binds

The canonical parts of a risk policy determine every field but the keys of its
bucket tables, which may hold the separator of their entries: of a table they
determine the pieces its entries are cut into.
-/

namespace Follon.Paper

open Foundation Domain Risk

/-! ## Printed fields -/

theorem renderOptional_injective :
    Function.Injective PortfolioRiskPolicy.renderOptional := by
  have hpoint : ∀ d : Decimal, d.display ≠ "none" := by
    intro d h
    have hmem : '.' ∈ d.display.toList := by
      simp [Decimal.display, Decimal.displayChars]
    rw [h] at hmem
    revert hmem
    decide
  intro left right h
  cases left with
  | none =>
    cases right with
    | none => rfl
    | some d => exact absurd h.symm (hpoint d)
  | some d =>
    cases right with
    | none => exact absurd h (hpoint d)
    | some e => rw [display_injective h]

theorem toString_nat_injective : Function.Injective (fun n : Nat => toString n) := by
  intro m n h
  have hchars := congrArg String.toList h
  simp only [Nat.toString_eq_repr, Nat.toList_repr] at hchars
  exact toDigits_injective hchars

theorem append_left_inj' {label left right : String} :
    label ++ left = label ++ right ↔ left = right := by
  constructor
  · intro h
    have hchars := congrArg String.toList h
    rw [toList_append, toList_append] at hchars
    exact toList_injective (List.append_cancel_left hchars)
  · rintro rfl
    rfl

/-! ## The parts of a policy -/

def limitPieces (limits : OrderedMap String Decimal) : List (List Char) :=
  (limits.toList.map fun entry => entry.1 ++ "=" ++ entry.2.display).flatMap
    (pieces '|')

def tablePieces (policy : PortfolioRiskPolicy) : List (List (List Char)) :=
  [policy.sectorLimits, policy.assetClassLimits, policy.currencyLimits,
    policy.strategyLimits].map limitPieces

def withTablesOf (policy other : PortfolioRiskPolicy) : PortfolioRiskPolicy :=
  { policy with
    sectorLimits := other.sectorLimits
    assetClassLimits := other.assetClassLimits
    currencyLimits := other.currencyLimits
    strategyLimits := other.strategyLimits }

variable {left right : OrderedMap String Decimal}
  {other : PortfolioRiskPolicy}

theorem renderLimits_eq_iff :
    PortfolioRiskPolicy.renderLimits left = PortfolioRiskPolicy.renderLimits right ↔
      limitPieces left = limitPieces right := by
  have hfull : ∀ limits : OrderedMap String Decimal,
      ∀ part ∈ limits.toList.map fun entry =>
        entry.1 ++ "=" ++ entry.2.display, part ≠ "" := by
    intro limits part hpart hempty
    obtain ⟨entry, -, rfl⟩ := mem_map.mp hpart
    have hchars := congrArg String.toList hempty
    simp at hchars
  exact joinWith_eq_iff rfl (hfull left) (hfull right)

theorem plain_of_canonical {id : String} (h : isCanonicalId id = true) :
    id ≠ "" ∧ '|' ∉ id.toList := by
  simp only [isCanonicalId, and_eq_true, all_eq_true] at h
  refine ⟨?_, fun hmem => absurd (h.2 _ hmem) (by decide)⟩
  rintro rfl
  exact absurd h.1 (by decide)

theorem instruments_canonical {policy : PortfolioRiskPolicy}
    (h : policy.validate = .ok ()) :
    (∀ id ∈ policy.allowedInstruments.toList, isCanonicalId id = true)
      ∧ ∀ id ∈ policy.restrictedInstruments.toList,
        isCanonicalId id = true := by
  simp only [PortfolioRiskPolicy.validate, bind_eq_ok, checkAll_eq_ok,
    validateCanonicalId_eq_ok] at h
  obtain ⟨-, -, _, -, _, -, _, -, -, -, -, hinstruments, -⟩ := h
  exact ⟨fun id hid => hinstruments id (mem_append_left _ hid),
    fun id hid => hinstruments id (mem_append_right _ hid)⟩

theorem renderSet_inj {left right : OrderedSet String}
    (hleft : ∀ id ∈ left.toList, isCanonicalId id = true)
    (hright : ∀ id ∈ right.toList, isCanonicalId id = true)
    (h : PortfolioRiskPolicy.renderSet left
      = PortfolioRiskPolicy.renderSet right) : left = right :=
  Std.ExtTreeSet.toList_inj.mp (joinWith_inj rfl
    (fun id hid => plain_of_canonical (hleft id hid))
    (fun id hid => plain_of_canonical (hright id hid)) h)

theorem canonicalParts_eq_iff {policy : PortfolioRiskPolicy}
    (hpolicy : policy.validate = .ok ()) (hother : other.validate = .ok ()) :
    policy.canonicalParts = other.canonicalParts ↔ withTablesOf policy other = other
        ∧ tablePieces policy = tablePieces other := by
  obtain ⟨hallowed, hrestricted⟩ := instruments_canonical hpolicy
  obtain ⟨hallowed', hrestricted'⟩ := instruments_canonical hother
  have hbool : ∀ a b : Bool, toString a = toString b ↔ a = b := by
    decide
  have hset : PortfolioRiskPolicy.renderSet policy.allowedInstruments
        = PortfolioRiskPolicy.renderSet other.allowedInstruments ↔
      policy.allowedInstruments = other.allowedInstruments :=
    ⟨renderSet_inj hallowed hallowed', congrArg _⟩
  have hset' : PortfolioRiskPolicy.renderSet policy.restrictedInstruments
        = PortfolioRiskPolicy.renderSet other.restrictedInstruments ↔
      policy.restrictedInstruments = other.restrictedInstruments :=
    ⟨renderSet_inj hrestricted hrestricted', congrArg _⟩
  simp only [PortfolioRiskPolicy.canonicalParts, List.cons.injEq, and_true,
    append_left_inj', display_injective.eq_iff, renderLimits_eq_iff, hbool,
    renderOptional_injective.eq_iff, hset, hset', toString_nat_injective.eq_iff]
  cases policy
  cases other
  simp only [withTablesOf, tablePieces, map_cons, map_nil,
    PortfolioRiskPolicy.mk.injEq, List.cons.injEq, and_true, true_and]
  grind

/-! ## Plain bucket keys -/

theorem plain_display (d : Decimal) : ∀ c ∈ d.display.toList, c ≠ '|' ∧ c ≠ '=' := by
  intro c hc
  rcases mem_display hc with rfl | rfl | hdigit
  · decide
  · decide
  · constructor <;>
      · rintro rfl
        contradiction

def PlainKeys (limits : OrderedMap String Decimal) : Prop :=
  ∀ entry ∈ limits.toList, '|' ∉ entry.1.toList

theorem limitPieces_inj (hleft : PlainKeys left) (hright : PlainKeys right)
    (h : limitPieces left = limitPieces right) : left = right := by
  have hplain : ∀ limits : OrderedMap String Decimal, PlainKeys limits →
      ∀ part ∈ limits.toList.map fun entry =>
        entry.1 ++ "=" ++ entry.2.display, '|' ∉ part.toList := by
    intro limits hkeys part hpart hmem
    obtain ⟨entry, hentry, rfl⟩ := mem_map.mp hpart
    rw [toList_append, toList_append, mem_append,
      mem_append] at hmem
    rcases hmem with (hkey | hequals) | hvalue
    · exact hkeys entry hentry hkey
    · exact absurd hequals (by decide)
    · exact (plain_display entry.2 _ hvalue).1 rfl
  rw [limitPieces, limitPieces, flatMap_pieces (hplain left hleft),
    flatMap_pieces (hplain right hright), map_map, map_map] at h
  apply Std.ExtTreeMap.toList_inj.mp
  refine (List.map_inj_right ?_).mp h
  intro entry entry' hentries
  simp only [Function.comp, toList_append,
    append_assoc] at hentries
  obtain ⟨hkey, hvalue⟩ := append_cons_inj
    (fun hmem => (plain_display entry.2 _ hmem).2 rfl)
    (fun hmem => (plain_display entry'.2 _ hmem).2 rfl) hentries
  exact Prod.ext (toList_injective hkey)
    (display_injective (toList_injective hvalue))

/-! ## Fingerprints -/

theorem flatMap_lengthPrefixed_inj {parts parts' : List String}
    (hlength : parts.length = parts'.length) (hparts : ∀ part ∈ parts, FitsWord part)
    (hparts' : ∀ part ∈ parts', FitsWord part)
    (h : parts.flatMap lengthPrefixed = parts'.flatMap lengthPrefixed) :
    parts = parts' := by
  induction parts generalizing parts' with
  | nil => exact (List.eq_nil_of_length_eq_zero hlength.symm).symm
  | cons part rest ih =>
    cases parts' with
    | nil => contradiction
    | cons part' rest' =>
      rw [forall_mem_cons] at hparts hparts'
      rw [flatMap_cons, flatMap_cons] at h
      obtain ⟨rfl, hrest⟩ :=
        lengthPrefixed_append_inj hparts.1 hparts'.1 h
      rw [ih (Nat.succ.inj hlength) hparts.2 hparts'.2 hrest]

/-- Different policies have different canonical parts, and, under a hash
without collisions, different fingerprints beside the same buckets and rates. -/
structure BindsPolicy (policy other : PortfolioRiskPolicy) : Prop where
  parts : policy ≠ other → policy.canonicalParts ≠ other.canonicalParts
  fingerprint : ∀ hash : ContentHash, Function.Injective hash.hexDigest →
    ∀ instrumentBuckets marginRates,
      @hashFingerprintParts hash (portfolioRiskFingerprintParts
          ⟨policy, instrumentBuckets, marginRates⟩)
        = @hashFingerprintParts hash (portfolioRiskFingerprintParts
          ⟨other, instrumentBuckets, marginRates⟩) →
      policy = other

theorem parts_of_fingerprint {policy : PortfolioRiskPolicy}
    (hfits : ∀ part ∈ policy.canonicalParts ++ other.canonicalParts, FitsWord part)
    {hash : ContentHash} (hhash : Function.Injective hash.hexDigest)
    {instrumentBuckets : OrderedMap String InstrumentBucket}
    {marginRates : Option (OrderedMap String Accounting.MarginRate)}
    (h : @hashFingerprintParts hash (portfolioRiskFingerprintParts
          ⟨policy, instrumentBuckets, marginRates⟩)
        = @hashFingerprintParts hash (portfolioRiskFingerprintParts
          ⟨other, instrumentBuckets, marginRates⟩)) :
    policy.canonicalParts = other.canonicalParts := by
  have hbytes := hhash h
  simp only [portfolioRiskFingerprintParts, List.flatMap_append] at hbytes
  exact flatMap_lengthPrefixed_inj rfl
    (fun part hpart => hfits part (mem_append_left _ hpart))
    (fun part hpart => hfits part (mem_append_right _ hpart))
    (List.append_cancel_right hbytes)

/-- The fingerprint tells two policies apart exactly when they are one policy,
differ outside their bucket tables, or have tables cut into different
pieces. -/
theorem bindsPolicy_iff {policy other : PortfolioRiskPolicy}
    (hpolicy : policy.validate = .ok ()) (hother : other.validate = .ok ())
    (hfits : ∀ part ∈ policy.canonicalParts ++ other.canonicalParts,
      FitsWord part) : BindsPolicy policy other ↔
      (policy = other ∨ withTablesOf policy other ≠ other
        ∨ tablePieces policy ≠ tablePieces other) := by
  have hparts := canonicalParts_eq_iff hpolicy hother
  constructor
  · intro hbinds
    by_cases hsame : policy = other
    · exact .inl hsame
    · have hdiffer := hbinds.parts hsame
      rw [ne_eq, hparts, not_and_or] at hdiffer
      exact .inr hdiffer
  · intro hdiffer
    have hbound : policy.canonicalParts = other.canonicalParts →
        policy = other := by
      intro h
      obtain ⟨hfields, htables⟩ := hparts.mp h
      rcases hdiffer with hsame | hother | hcut
      · exact hsame
      · exact absurd hfields hother
      · exact absurd htables hcut
    refine ⟨fun hne h => hne (hbound h), ?_⟩
    intro hash hhash instrumentBuckets marginRates h
    exact hbound (parts_of_fingerprint hfits hhash h)

theorem canonicalParts_inj_of_plainKeys {policy : PortfolioRiskPolicy}
    (hpolicy : policy.validate = .ok ()) (hother : other.validate = .ok ())
    (hplain : ∀ limits ∈ [policy.sectorLimits, policy.assetClassLimits,
      policy.currencyLimits, policy.strategyLimits, other.sectorLimits,
      other.assetClassLimits, other.currencyLimits, other.strategyLimits],
      PlainKeys limits) (h : policy.canonicalParts = other.canonicalParts)
    : policy = other := by
  obtain ⟨hfields, htables⟩ := (canonicalParts_eq_iff hpolicy hother).mp h
  simp only [tablePieces, map_cons, map_nil, List.cons.injEq,
    and_true] at htables
  obtain ⟨hsector, hassetClass, hcurrency, hstrategy⟩ := htables
  have hsectors := limitPieces_inj (hplain _ (by simp)) (hplain _ (by simp))
    hsector
  have hassetClasses := limitPieces_inj (hplain _ (by simp))
    (hplain _ (by simp)) hassetClass
  have hcurrencies := limitPieces_inj (hplain _ (by simp))
    (hplain _ (by simp)) hcurrency
  have hstrategies := limitPieces_inj (hplain _ (by simp))
    (hplain _ (by simp)) hstrategy
  rw [← hfields, withTablesOf, ← hsectors, ← hassetClasses, ← hcurrencies, ← hstrategies]

/-! ## Two tables of one text -/

namespace BucketKeys

def units (value : Int) : Decimal :=
  (Decimal.ofScaled? (value * Decimal.scale)).getD Decimal.zero

def policy (sectorLimits : OrderedMap String Decimal) : PortfolioRiskPolicy where
  version := "limits-1"
  globalKillSwitch := false
  maxGrossExposure := units 1000000
  maxAbsNetExposure := units 1000000
  maxLeverageBps := units 10000
  maxConcentrationBps := units 10000
  maxDailyLoss := units 1000
  maxDrawdownBps := units 10000
  maxMarginUtilizationBps := units 10000
  maxAbsDelta := units 1000
  maxAbsGamma := units 1000
  maxOpenOrders := 10
  maxOrderRate := 10
  allowedInstruments := ∅
  restrictedInstruments := ∅
  sectorLimits := sectorLimits
  assetClassLimits := ∅
  currencyLimits := ∅
  strategyLimits := ∅
  maxNewsSlippageBps := none
  maxSpreadMultiplierBps := none

def twoSectors : PortfolioRiskPolicy :=
  policy (Std.ExtTreeMap.ofList [("energy", units 1), ("technology", units 2)])

def oneSector : PortfolioRiskPolicy :=
  policy (Std.ExtTreeMap.ofList [("energy=1.00000000|technology", units 2)])

def tighterSectors : PortfolioRiskPolicy :=
  policy (Std.ExtTreeMap.ofList [("energy", units 1), ("technology", units 1)])

theorem tighterSectors_bound : BindsPolicy twoSectors tighterSectors ↔
      (twoSectors = tighterSectors
        ∨ withTablesOf twoSectors tighterSectors ≠ tighterSectors
        ∨ tablePieces twoSectors ≠ tablePieces tighterSectors) := by
  have hsizes : ((twoSectors.canonicalParts
      ++ tighterSectors.canonicalParts).all fun part =>
        part.utf8ByteSize < 2 ^ 64) = true := by
    decide +kernel
  refine bindsPolicy_iff (by decide +kernel) (by decide +kernel) ?_
  intro part hpart
  have hsize : part.utf8ByteSize < 2 ^ 64 :=
    of_decide_eq_true (all_eq_true.mp hsizes part hpart)
  exact hsize

theorem oneSector_unbound :
    ¬∀ policy other : PortfolioRiskPolicy, policy.validate = .ok () →
      other.validate = .ok () → policy ≠ other →
        policy.canonicalParts ≠ other.canonicalParts := by
  intro h
  refine h twoSectors oneSector (by decide +kernel) (by decide +kernel) ?_
    (by decide +kernel)
  intro hsame
  have hsize : twoSectors.sectorLimits.size = oneSector.sectorLimits.size :=
    congrArg (fun policy => policy.sectorLimits.size) hsame
  revert hsize
  decide +kernel

end BucketKeys

end Follon.Paper
