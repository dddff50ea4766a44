import Follon.Commercial.LedgerReopens

/-!
# Isolation of tenants

What a tenant may do is derived from a ledger that every tenant writes to.
Two verified ledgers with the same records of a tenant give it the same
access, whatever the others recorded and wherever the records stand.
-/

namespace Follon.Commercial

open Foundation Domain

/-! ## Records of a tenant -/

structure Verified [ContentHash] (records : List CommercialLedgerRecord) :
    Prop where
  sequence : verifyRecordSequence records = .ok ()
  facts : checkFacts records = .ok ()

def ownRecords (tenantId : String) (records : List CommercialLedgerRecord) :
    List CommercialLedgerRecord :=
  records.filter (·.tenantId == tenantId)

def CommercialLedgerRecord.fact (record : CommercialLedgerRecord) :
    String × String × Details :=
  (record.eventType, record.occurredAt, record.details)

def SameFact (left right : CommercialLedgerRecord) : Prop :=
  left.tenantId = right.tenantId ∧ left.fact = right.fact

def SameRecords (tenantId : String)
    (records others : List CommercialLedgerRecord) : Prop :=
  (ownRecords tenantId records).map (·.fact) =
    (ownRecords tenantId others).map (·.fact)

variable {tenantId : String} {records others : List CommercialLedgerRecord}
  {left right : CommercialLedgerRecord}

theorem mem_ownRecords {record : CommercialLedgerRecord} :
    record ∈ ownRecords tenantId records ↔
      record ∈ records ∧ record.tenantId = tenantId := by
  rw [ownRecords, mem_filter, beq_iff_eq]

theorem SameRecords.symm (h : SameRecords tenantId records others) :
    SameRecords tenantId others records :=
  Eq.symm h

theorem SameRecords.forall₂ (h : SameRecords tenantId records others) :
    List.Forall₂ SameFact (ownRecords tenantId records)
      (ownRecords tenantId others) := by
  have hmapped : List.Forall₂ Eq ((ownRecords tenantId records).map (·.fact))
      ((ownRecords tenantId others).map (·.fact)) := by
    rw [List.forall₂_eq_eq_eq]
    exact h
  have hfacts := List.forall₂_map_left_iff.mp (List.forall₂_map_right_iff.mp hmapped)
  have howner : ∀ list : List CommercialLedgerRecord,
      ∀ record ∈ ownRecords tenantId list, record.tenantId = tenantId :=
    fun list record hmem => (mem_ownRecords.mp hmem).2
  have hleft := howner records
  have hright := howner others
  clear hmapped
  generalize ownRecords tenantId records = mine at *
  generalize ownRecords tenantId others = theirs at *
  induction hfacts with
  | nil => exact .nil
  | cons hfact _ ih =>
    rw [forall_mem_cons] at hleft hright
    exact .cons ⟨hleft.1.trans hright.1.symm, hfact⟩ (ih hleft.2 hright.2)

/-! ## Facts of a record -/

variable {key : String} {provisioning : TenantProvisioning}
  {recorded : RecordedSubscription}
  {map : OrderedMap String TenantProvisioning}

theorem requiredDetail_eq_ok {record : CommercialLedgerRecord} {value : String}
    : requiredDetail record key = .ok value ↔
      record.details[key]? = some value := by
  unfold requiredDetail
  cases record.details[key]? with
  | none => exact ⟨fun h => by contradiction, fun h => by contradiction⟩
  | some found =>
    constructor
    · exact fun h => congrArg some (Except.ok.inj h)
    · exact fun h => congrArg Except.ok (Option.some.inj h)

theorem SameFact.isProvisioning (h : SameFact left right) :
    isProvisioning left = isProvisioning right := by
  have hkind : left.eventType = right.eventType := congrArg Prod.fst h.2
  unfold Commercial.isProvisioning
  rw [hkind]

theorem SameFact.isObservation (h : SameFact left right)
    : isObservation left = isObservation right := by
  have hkind : left.eventType = right.eventType := congrArg Prod.fst h.2
  unfold Commercial.isObservation
  rw [hkind]

theorem parseBoolDetail_eq_ok {record : CommercialLedgerRecord} {value : Bool}
    : parseBoolDetail record key = .ok value ↔
      record.details[key]? = some (toString value) := by
  simp only [parseBoolDetail, bind_eq_ok, requiredDetail_eq_ok]
  constructor
  · rintro ⟨text, htext, hvalue⟩
    split at hvalue
    · obtain rfl := Except.ok.inj hvalue
      exact htext
    · obtain rfl := Except.ok.inj hvalue
      exact htext
    · contradiction
  · intro htext
    refine ⟨_, htext, ?_⟩
    cases value <;> rfl

theorem SameFact.provisioningOf (h : SameFact left right)
    (hread : provisioningOf left = .ok provisioning) :
    provisioningOf right = .ok provisioning := by
  obtain ⟨htenant, hfact⟩ := h
  simp only [CommercialLedgerRecord.fact, Prod.mk.injEq] at hfact
  obtain ⟨-, hat, hdetails⟩ := hfact
  simp only [Commercial.provisioningOf, bind_eq_ok, requiredDetail_eq_ok,
    parseBoolDetail_eq_ok, htenant, hat, hdetails] at hread ⊢
  exact hread

theorem SameFact.recordedSubscription (h : SameFact left right)
    (hread : recordedSubscription left = .ok recorded) : recordedSubscription right =
      .ok ⟨right.sequence, recorded.subscription⟩ := by
  obtain ⟨htenant, hfact⟩ := h
  simp only [CommercialLedgerRecord.fact, Prod.mk.injEq] at hfact
  obtain ⟨-, -, hdetails⟩ := hfact
  simp only [Commercial.recordedSubscription, bind_eq_ok, requiredDetail_eq_ok,
    htenant, hdetails] at hread ⊢
  obtain ⟨id, hid, planText, hplanText, plan, hplan, statusText, hstatusText,
    status, hstatus, effectiveAt, heffective, expiresAt, hexpires, provider,
    hprovider, customer, hcustomer, evidence, hevidence, valid, hvalid, hread⟩ :=
    hread
  obtain rfl := Except.ok.inj hread
  exact ⟨id, hid, planText, hplanText, plan, hplan, statusText, hstatusText,
    status, hstatus, effectiveAt, heffective, expiresAt, hexpires, provider,
    hprovider, customer, hcustomer, evidence, hevidence, valid, hvalid, rfl⟩

theorem recordedSubscription_sequence {record : CommercialLedgerRecord}
    (h : recordedSubscription record = .ok recorded) :
    recorded.sequence = record.sequence := by
  have hsame := SameFact.recordedSubscription ⟨rfl, rfl⟩ h
  rw [h] at hsame
  exact congrArg RecordedSubscription.sequence (Except.ok.inj hsame)

/-! ## Provisionings -/

theorem getElem?_provisionings (hfacts : checkFacts records = .ok ())
    (hmap : provisionings records = .ok map) : map[tenantId]? = some provisioning ↔
      ∃ record ∈ ownRecords tenantId records, isProvisioning record = true ∧
        provisioningOf record = .ok provisioning := by
  have hnodup := (checkFacts_eq_ok.mp hfacts).2
  obtain ⟨hget, hsome⟩ := @foldlM_addProvisioning_get _ _ _ tenantId hmap
  have hread : ∀ found, map[tenantId]? = some found →
      ∃ record ∈ records.filter isProvisioning, record.tenantId = tenantId ∧
        provisioningOf record = .ok found := by
    intro found hfound
    rcases hget found hfound with hempty | hrecord
    · simp at hempty
    · exact hrecord
  constructor
  · intro h
    obtain ⟨record, hrecord, howner, hof⟩ := hread provisioning h
    obtain ⟨hmem, hkind⟩ := mem_filter.mp hrecord
    exact ⟨record, mem_ownRecords.mpr ⟨hmem, howner⟩, hkind, hof⟩
  · rintro ⟨record, hrecord, hkind, hof⟩
    obtain ⟨hmem, howner⟩ := mem_ownRecords.mp hrecord
    have hprovisioned := mem_filter.mpr ⟨hmem, hkind⟩
    have htenant := mem_map_of_mem (f := (·.tenantId)) hprovisioned
    rw [howner] at htenant
    obtain ⟨found, hfound⟩ :=
      isSome_iff_exists.mp (hsome (.inl htenant))
    obtain ⟨other, hother, howner', hof'⟩ := hread found hfound
    obtain rfl := List.inj_on_of_nodup_map hnodup hother hprovisioned
      (howner'.trans howner.symm)
    rw [hof] at hof'
    rw [hfound, Except.ok.inj hof']

theorem provisioning_same (hsame : SameRecords tenantId records others)
    (hfacts : checkFacts records = .ok ()) (hfacts' : checkFacts others = .ok ())
    {map' : OrderedMap String TenantProvisioning}
    (hmap : provisionings records = .ok map) (hmap' : provisionings others = .ok map') :
    map[tenantId]? = map'[tenantId]? := by
  have hcarry : ∀ {left right : List CommercialLedgerRecord},
      List.Forall₂ SameFact left right → ∀ {provisioning},
      (∃ record ∈ left, isProvisioning record = true ∧
        provisioningOf record = .ok provisioning) →
      ∃ record ∈ right, isProvisioning record = true ∧
        provisioningOf record = .ok provisioning := by
    intro left right hall provisioning
    induction hall with
    | nil => simp
    | cons hfact _ ih =>
      rintro ⟨record, hrecord, hkind, hof⟩
      rcases mem_cons.mp hrecord with rfl | hrecord
      · exact ⟨_, mem_cons_self, hfact.isProvisioning ▸ hkind, hfact.provisioningOf hof⟩
      · obtain ⟨other, hother, hread⟩ := ih ⟨record, hrecord, hkind, hof⟩
        exact ⟨other, mem_cons_of_mem _ hother, hread⟩
  ext provisioning
  rw [getElem?_provisionings hfacts hmap, getElem?_provisionings hfacts' hmap']
  exact ⟨hcarry hsame.forall₂, hcarry hsame.symm.forall₂⟩

/-! ## Observations -/

/-- The observations of a tenant, in the order of their records. -/
def Observes (tenantId : String) (records : List CommercialLedgerRecord)
    (observations : List SubscriptionObservation) : Prop :=
  List.Forall₂ (fun record observation =>
    ∃ sequence, recordedSubscription record = .ok ⟨sequence, observation⟩)
    ((ownRecords tenantId records).filter isObservation) observations

theorem observes_of_subscriptions {observed : List RecordedSubscription}
    (h : subscriptions records = .ok observed) : Observes tenantId records
      ((observed.filter (·.subscription.tenantId == tenantId)).map
        (·.subscription)) := by
  have hall := forall₂_of_collect h
  have hfilter := @List.rel_filter _ _ _ (·.tenantId == tenantId)
    (·.subscription.tenantId == tenantId)
    (fun record recorded hread => by
      dsimp only
      rw [(recordedSubscription_eq_ok hread).1]) _ _ hall
  unfold Observes ownRecords
  rw [List.filter_comm, List.forall₂_map_right_iff]
  exact hfilter.imp fun record recorded hread => ⟨recorded.sequence, hread⟩

theorem observations_same (hsame : SameRecords tenantId records others)
    {observations observations' : List SubscriptionObservation}
    (h : Observes tenantId records observations)
    (h' : Observes tenantId others observations') : observations = observations' := by
  have hall := @List.rel_filter _ _ SameFact isObservation isObservation
    (fun _ _ hfact => by
      dsimp only
      rw [hfact.isObservation]) _ _ hsame.forall₂
  unfold Observes at h h'
  generalize (ownRecords tenantId records).filter isObservation = mine at *
  generalize (ownRecords tenantId others).filter isObservation = theirs at *
  induction hall generalizing observations observations' with
  | nil =>
    cases h
    cases h'
    rfl
  | cons hfact _ ih =>
    cases h with
    | cons hread hrest =>
      cases h' with
      | cons hread' hrest' =>
        obtain ⟨sequence, hread⟩ := hread
        obtain ⟨sequence', hread'⟩ := hread'
        rw [hfact.recordedSubscription hread] at hread'
        rw [ih hrest hrest']
        have hrecorded := congrArg RecordedSubscription.subscription
          (Except.ok.inj hread')
        exact congrArg (· :: _) hrecorded

/-! ## The latest observation -/

def IsLatest (candidates : List SubscriptionObservation)
    (latest : SubscriptionObservation) : Prop :=
  ∃ before after, candidates = before ++ latest :: after ∧
    (∀ other ∈ before, other.effectiveAt ≤ latest.effectiveAt) ∧
    ∀ other ∈ after, other.effectiveAt < latest.effectiveAt

def effectiveBy (asOf : String) (observation : SubscriptionObservation) : Bool :=
  decide (observation.effectiveAt ≤ asOf)

def latestObservation (candidates : List SubscriptionObservation) :
    Option SubscriptionObservation :=
  candidates.foldl (fun latest candidate =>
    match latest with
    | some held =>
      if candidate.effectiveAt < held.effectiveAt then some held
      else some candidate
    | none => some candidate) none

theorem isLatest_of_latestObservation {candidates : List SubscriptionObservation} :
    (latestObservation candidates = none ↔ candidates = []) ∧
      ∀ latest, latestObservation candidates = some latest →
        IsLatest candidates latest := by
  induction candidates using List.reverseRec with
  | nil =>
    refine ⟨⟨fun _ => rfl, fun _ => rfl⟩, ?_⟩
    intro latest h
    contradiction
  | append_singleton before candidate ih =>
    have hstep : latestObservation (before ++ [candidate]) =
        match latestObservation before with
        | some held =>
          if candidate.effectiveAt < held.effectiveAt then some held
          else some candidate
        | none => some candidate :=
      List.foldl_concat _ _ _ _
    rw [hstep]
    cases hheld : latestObservation before with
    | none =>
      obtain rfl := ih.1.mp hheld
      refine ⟨by simp, ?_⟩
      intro latest h
      obtain rfl := Option.some.inj h
      exact ⟨[], [], rfl, by simp, by simp⟩
    | some held =>
      obtain ⟨first, rest, rfl, hfirst, hrest⟩ := ih.2 held hheld
      dsimp only
      split
      · next hless =>
          refine ⟨by simp, ?_⟩
          intro latest h
          obtain rfl := Option.some.inj h
          refine ⟨first, rest ++ [candidate], by simp, hfirst, ?_⟩
          intro other hother
          rcases mem_append.mp hother with hother | hother
          · exact hrest other hother
          · obtain rfl := mem_singleton.mp hother
            exact hless
      · next hnot =>
          refine ⟨by simp, ?_⟩
          intro latest h
          obtain rfl := Option.some.inj h
          have hle := not_lt.mp hnot
          refine ⟨first ++ held :: rest, [], rfl, ?_, by simp⟩
          intro other hother
          rcases mem_append.mp hother with hother | hother
          · exact (hfirst other hother).trans hle
          · rcases mem_cons.mp hother with rfl | hother
            · exact hle
            · exact (hrest other hother).le.trans hle

theorem latestSubscription_subscription {candidates : List RecordedSubscription}
    (h : candidates.Pairwise fun left right =>
      left.sequence < right.sequence) :
    (latestSubscription candidates).map (·.subscription) =
      latestObservation (candidates.map (·.subscription)) := by
  induction candidates using List.reverseRec with
  | nil => rfl
  | append_singleton before candidate ih =>
    rw [pairwise_append] at h
    have hheld := ih h.1
    rw [latestSubscription, latestObservation, map_append,
      List.map_singleton, List.foldl_concat, List.foldl_concat]
    have hlast : before.foldl _ none = latestSubscription before := rfl
    have hobserved : (before.map _).foldl _ none
      = latestObservation (before.map (·.subscription)) := rfl
    rw [hlast, hobserved, ← hheld]
    cases hlatest : latestSubscription before with
    | none => rfl
    | some held =>
      have hlt := h.2.2 held (latestSubscription_mem hlatest) candidate
        (mem_singleton.mpr rfl)
      have hnot : ¬candidate.sequence < held.sequence := UInt64.lt_asymm hlt
      simp only [laterSubscription, hnot, decide_false, Bool.and_false,
        Bool.or_false, decide_eq_true_eq, Option.map_some]
      split <;> rfl

section
variable [ContentHash]

variable {records : List CommercialLedgerRecord} {tenantId : String}

theorem sequences_of_foldlM {start : Nat} {seen seen' : String × List String}
    (h : (records.zipIdx start).foldlM verifyNext seen = .ok seen') :
    records.map (·.sequence.toNat) =
      List.range' (start + 1) records.length := by
  induction records generalizing start seen with
  | nil => rfl
  | cons record rest ih =>
    simp only [List.zipIdx_cons, foldlM_cons, bind_eq_ok] at h
    obtain ⟨next, hnext, hrest⟩ := h
    simp only [verifyNext, bind_eq_ok] at hnext
    obtain ⟨_, hvalid, -⟩ := hnext
    rw [map_cons, length_cons, List.range'_succ, ih hrest,
      (validateRecord_eq_ok.mp hvalid).sequence]

theorem Verified.sequence_lt (h : Verified records) :
    records.Pairwise fun left right => left.sequence < right.sequence := by
  have hverified := h.sequence
  simp only [verifyRecordSequence, bind_eq_ok] at hverified
  obtain ⟨seen, hseen, -⟩ := hverified
  have hrange := sequences_of_foldlM hseen
  have hlt := @List.pairwise_lt_range' (0 + 1) records.length 1 (by decide)
  rw [← hrange, pairwise_map] at hlt
  exact hlt.imp fun h => UInt64.lt_iff_toNat_lt.mpr h

theorem observed_sequence_lt (h : Verified records) {observed : List RecordedSubscription}
    (hobserved : subscriptions records = .ok observed) :
    observed.Pairwise fun left right => left.sequence < right.sequence := by
  have hrecords := h.sequence_lt.filter isObservation
  have hall := forall₂_of_collect hobserved
  have hsame : observed.map (·.sequence) =
      (records.filter isObservation).map (·.sequence) := by
    rw [← List.forall₂_eq_eq_eq, List.forall₂_map_left_iff, List.forall₂_map_right_iff]
    exact hall.flip.imp fun _ _ hread => recordedSubscription_sequence hread
  have hpairs := (pairwise_map (f := CommercialLedgerRecord.sequence)
    (R := fun left right => left < right)).mpr hrecords
  rw [← hsame] at hpairs
  exact pairwise_map.mp hpairs

/-! ## Entitlements -/

variable {asOf : String} {latest : Option RecordedSubscription}

theorem deriveEntitlement_eq (h : Verified records)
    (hid : isCanonicalId tenantId = true) (hasOf : isUtcTimestamp asOf = true) :
    ∃ map observations latest, provisionings records = .ok map ∧
      Observes tenantId records observations ∧
      latest.map RecordedSubscription.subscription =
        latestObservation (observations.filter (effectiveBy asOf)) ∧
      deriveEntitlement records tenantId asOf =
        provisioningFor map tenantId >>= fun provisioning =>
          entitlementOf records tenantId asOf provisioning latest := by
  have hfacts := h.facts
  simp only [checkFacts, bind_eq_ok] at hfacts
  obtain ⟨map, hmap, observed, hobserved, -⟩ := hfacts
  have hsequence := observed_sequence_lt h hobserved
  refine ⟨map, _, latestSubscription (observed.filter fun recorded =>
      recorded.subscription.tenantId == tenantId &&
        decide (recorded.subscription.effectiveAt ≤ asOf)),
    hmap, observes_of_subscriptions hobserved, ?_, ?_⟩
  · rw [latestSubscription_subscription (hsequence.filter _), List.filter_map,
      List.filter_filter]
    congr 3
    funext recorded
    exact Bool.and_comm _ _
  · have hname : validateCanonicalId "entitlement tenant_id" tenantId = .ok () :=
      validateCanonicalId_eq_ok.mpr hid
    have htime : validateUtcTimestamp "entitlement as_of" asOf = .ok () :=
      validateUtcTimestamp_eq_ok.mpr hasOf
    rw [deriveEntitlement, hname, htime, h.sequence, hmap, hobserved]
    rfl

/-- Equal in every field except `ledger_head_hash`, or the same error. -/
def SameOutcome : Result TenantEntitlement → Result TenantEntitlement → Prop
  | .ok left, .ok right =>
    { left with ledgerHeadHash := right.ledgerHeadHash } = right
  | .error left, .error right => left = right
  | _, _ => False

omit [ContentHash] in
theorem SameOutcome.refl_error (e : PaperError) : SameOutcome (.error e) (.error e) := rfl

omit [ContentHash] in
theorem entitlementOf_same (records others : List CommercialLedgerRecord)
    (tenantId asOf : String) (provisioning : TenantProvisioning)
    {latest' : Option RecordedSubscription}
    (h : latest.map RecordedSubscription.subscription =
      latest'.map RecordedSubscription.subscription) :
    SameOutcome (entitlementOf records tenantId asOf provisioning latest)
      (entitlementOf others tenantId asOf provisioning latest') := by
  cases latest with
  | none =>
    cases latest' with
    | none => rfl
    | some recorded => contradiction
  | some recorded =>
    cases latest' with
    | none => contradiction
    | some recorded' =>
      have hsame := Option.some.inj h
      simp only [entitlementOf, hsame]
      unfold refuseIf
      split <;> rfl

theorem deriveEntitlement_refused {records others : List CommercialLedgerRecord}
    {tenantId asOf : String} (h : ¬(isCanonicalId tenantId = true ∧
      isUtcTimestamp asOf = true)) :
    ∃ e, deriveEntitlement records tenantId asOf = .error e ∧
      deriveEntitlement others tenantId asOf = .error e := by
  cases hid : validateCanonicalId "entitlement tenant_id" tenantId with
  | error e =>
    refine ⟨e, ?_, ?_⟩ <;>
      · rw [deriveEntitlement, hid]
        rfl
  | ok checked =>
    cases hasOf : validateUtcTimestamp "entitlement as_of" asOf with
    | error e =>
      refine ⟨e, ?_, ?_⟩ <;>
        · rw [deriveEntitlement, hid, hasOf]
          rfl
    | ok checked' =>
      exact absurd ⟨validateCanonicalId_eq_ok.mp hid,
        validateUtcTimestamp_eq_ok.mp hasOf⟩ h

theorem deriveEntitlement_same {others : List CommercialLedgerRecord}
    (h : Verified records) (h' : Verified others)
    (hsame : SameRecords tenantId records others) (asOf : String) :
    SameOutcome (deriveEntitlement records tenantId asOf)
      (deriveEntitlement others tenantId asOf) := by
  by_cases hinput : isCanonicalId tenantId = true ∧ isUtcTimestamp asOf = true
  · obtain ⟨map, observations, latest, hmap, hobserves, hlatest, hderive⟩ :=
      deriveEntitlement_eq h hinput.1 hinput.2
    obtain ⟨map', observations', latest', hmap', hobserves', hlatest',
      hderive'⟩ := deriveEntitlement_eq h' hinput.1 hinput.2
    rw [hderive, hderive', provisioningFor, provisioningFor,
      provisioning_same hsame h.facts h'.facts hmap hmap']
    cases map'[tenantId]? with
    | none => exact SameOutcome.refl_error _
    | some provisioning =>
      apply entitlementOf_same
      rw [hlatest, hlatest', observations_same hsame hobserves hobserves']
  · obtain ⟨e, hleft, hright⟩ := @deriveEntitlement_refused _ records others
      tenantId asOf hinput
    rw [hleft, hright]
    exact SameOutcome.refl_error e

omit [ContentHash] in
theorem full_of_entitlementOf {provisioning : TenantProvisioning}
    {entitlement : TenantEntitlement}
    (h : entitlementOf records tenantId asOf provisioning latest
      = .ok entitlement) (hfull : entitlement.access = .full) :
    ∃ recorded, latest = some recorded ∧ recorded.subscription.status = .paid ∧
      asOf < recorded.subscription.expiresAt ∧
      provisioning.plan = recorded.subscription.plan := by
  cases latest with
  | none =>
    obtain rfl := Except.ok.inj h
    contradiction
  | some recorded =>
    simp only [entitlementOf, bind_eq_ok, refuseIf_eq_ok, ne_eq,
      not_not] at h
    obtain ⟨-, hplan, h⟩ := h
    obtain rfl := Except.ok.inj h
    simp only [accessAt] at hfull
    refine ⟨recorded, rfl, ?_⟩
    split at hfull
    · contradiction
    · next hlive =>
        cases hstatus : recorded.subscription.status with
        | paid => exact ⟨rfl, not_le.mp hlive, hplan.symm⟩
        | grace =>
          rw [hstatus] at hfull
          contradiction
        | suspended =>
          rw [hstatus] at hfull
          contradiction
        | cancelled =>
          rw [hstatus] at hfull
          contradiction

/-- A tenant's entitlement depends on the tenant's own records alone, and full
access on its latest observation in effect. -/
theorem entitlements_isolated {records others : List CommercialLedgerRecord}
    (h : Verified records) (h' : Verified others) {tenantId : String}
    (hsame : SameRecords tenantId records others) (asOf : String) :
    SameOutcome (deriveEntitlement records tenantId asOf)
        (deriveEntitlement others tenantId asOf) ∧
      ∀ entitlement, deriveEntitlement records tenantId asOf = .ok entitlement →
        entitlement.access = .full →
        ∃ observations latest, Observes tenantId records observations ∧
          IsLatest (observations.filter (effectiveBy asOf)) latest ∧
          latest.status = .paid ∧ asOf < latest.expiresAt ∧
          ∃ record ∈ ownRecords tenantId records,
            isProvisioning record = true ∧ ∃ provisioning,
              provisioningOf record = .ok provisioning ∧
                provisioning.plan = latest.plan := by
  refine ⟨deriveEntitlement_same h h' hsame asOf, ?_⟩
  intro entitlement hentitlement hfull
  by_cases hinput : isCanonicalId tenantId = true ∧ isUtcTimestamp asOf = true
  · obtain ⟨map, observations, latest, hmap, hobserves, hlatest, hderive⟩ :=
      deriveEntitlement_eq h hinput.1 hinput.2
    rw [hderive] at hentitlement
    simp only [bind_eq_ok] at hentitlement
    obtain ⟨provisioning, hfor, hentitlement⟩ := hentitlement
    obtain ⟨recorded, rfl, hpaid, hlive, hplan⟩ :=
      full_of_entitlementOf hentitlement hfull
    have hprovisioned : map[tenantId]? = some provisioning := by
      unfold provisioningFor at hfor
      split at hfor
      · next found hfound =>
          rw [hfound, Except.ok.inj hfor]
      · contradiction
    obtain ⟨record, hrecord, hkind, hread⟩ :=
      (getElem?_provisionings h.facts hmap).mp hprovisioned
    exact ⟨observations, recorded.subscription, hobserves,
      isLatest_of_latestObservation.2 _ hlatest.symm, hpaid, hlive, record,
      hrecord, hkind, provisioning, hread, hplan⟩
  · obtain ⟨e, hleft, -⟩ := @deriveEntitlement_refused _ records others
      tenantId asOf hinput
    rw [hleft] at hentitlement
    contradiction

end

namespace IsolationSample

/-! ## Two ledgers of one tenant -/

def digest : String := "0000000000000000000000000000000000000000000000000000000000000000"

@[reducible] def contentHash : ContentHash :=
  ⟨fun _ => digest⟩

attribute [local instance] contentHash

def record (sequence : UInt64) (eventId eventType tenantId : String)
    (details : List (String × String)) : CommercialLedgerRecord where
  ledgerSchemaVersion := 1
  sequence
  eventId
  eventType
  tenantId
  occurredAt := "2026-01-01T00:00:00Z"
  actor := "billing"
  details := Std.ExtTreeMap.ofList details compare
  prevHash := digest
  recordHash := digest

def provisioned (sequence : UInt64) (eventId tenantId : String) :
    CommercialLedgerRecord :=
  record sequence eventId tenantProvisionedType tenantId
    [("plan", "PROFESSIONAL"), ("retention_policy_id", "standard"),
      ("self_hosted", "false"), ("workspace_id", "main")]

def paid (sequence : UInt64) (eventId tenantId : String) : CommercialLedgerRecord :=
  record sequence eventId subscriptionObservedType tenantId
    [("effective_at", "2026-01-01T00:00:00Z"), ("expires_at", "2026-02-01T00:00:00Z"),
      ("external_customer_ref", "customer-1"),
      ("payment_evidence_hash", digest), ("payment_provider", "stripe"),
      ("plan", "PROFESSIONAL"), ("status", "PAID"),
      ("subscription_id", "subscription-1")]

def alone : List CommercialLedgerRecord := [provisioned 1 "a" "acme", paid 2 "b" "acme"]

def mixed : List CommercialLedgerRecord :=
  [provisioned 1 "a" "other", provisioned 2 "b" "acme", paid 3 "c" "other",
    paid 4 "d" "acme"]

theorem alone_verified : Verified alone := ⟨by decide +kernel, by decide +kernel⟩

theorem mixed_verified : Verified mixed := ⟨by decide +kernel, by decide +kernel⟩

theorem sameRecords : SameRecords "acme" alone mixed := by
  rfl

theorem entitlements_isolated_alone :
    SameOutcome (deriveEntitlement alone "acme" "2026-01-15T00:00:00Z")
      (deriveEntitlement mixed "acme" "2026-01-15T00:00:00Z") :=
  (entitlements_isolated alone_verified mixed_verified sameRecords
    "2026-01-15T00:00:00Z").1

end IsolationSample

end Follon.Commercial
