import Follon.Commercial.Ledger

/-!
# When the ledger reopens

Every check of a line that is read was made of the record that was written,
but for one: a ledger refuses to open when a tenant is provisioned twice, and
nothing refuses the second provisioning.
-/

namespace Follon.Commercial

open Foundation Domain

/-! ## Facts of a record -/

@[simp] theorem CommercialPlan.parse_asStr (plan : CommercialPlan) :
    CommercialPlan.parse plan.asStr = .ok plan := by
  cases plan <;> rfl

variable {value : String} {record : CommercialLedgerRecord}
  {map : OrderedMap String TenantProvisioning}
  {records : List CommercialLedgerRecord}

theorem CommercialPlan.asStr_of_parse {plan : CommercialPlan}
    (h : CommercialPlan.parse value = .ok plan) : plan.asStr = value := by
  unfold parse at h
  split at h <;> cases h <;> rfl

@[simp] theorem BillingStatus.parse_asStr (status : BillingStatus) :
    BillingStatus.parse status.asStr = .ok status := by
  cases status <;> rfl

structure CommercialLedgerRecord.Readable
    (record : CommercialLedgerRecord) : Prop where
  provisioning : isProvisioning record = true →
    ∃ provisioning, provisioningOf record = .ok provisioning
  observation : isObservation record = true →
    ∃ recorded, recordedSubscription record = .ok recorded

theorem provisioningOf_eq_ok {provisioning : TenantProvisioning}
    (h : provisioningOf record = .ok provisioning) :
    provisioning.tenantId = record.tenantId ∧
      record.details["plan"]? = some provisioning.plan.asStr := by
  simp only [provisioningOf, bind_eq_ok] at h
  obtain ⟨_, _, planText, hplanText, plan, hplan, _, _, _, _, _, _, h⟩ := h
  cases h
  refine ⟨rfl, ?_⟩
  rw [requiredDetail] at hplanText
  split at hplanText
  · rename_i value hvalue
    obtain rfl := Except.ok.inj hplanText
    rw [hvalue, CommercialPlan.asStr_of_parse hplan]
  · contradiction

theorem recordedSubscription_eq_ok {recorded : RecordedSubscription}
    (h : recordedSubscription record = .ok recorded) :
    recorded.subscription.tenantId = record.tenantId ∧
      record.details["plan"]? = some recorded.subscription.plan.asStr := by
  simp only [recordedSubscription, bind_eq_ok] at h
  obtain ⟨_, _, planText, hplanText, plan, hplan, _, _, _, _, _, _, _, _, _, _,
    _, _, _, _, _, _, h⟩ := h
  cases h
  refine ⟨rfl, ?_⟩
  rw [requiredDetail] at hplanText
  split at hplanText
  · rename_i value hvalue
    obtain rfl := Except.ok.inj hplanText
    rw [hvalue, CommercialPlan.asStr_of_parse hplan]
  · contradiction

theorem requiredDetail_of_entry {entries : List (String × String)} {key : String}
    (hdetails : record.details = Std.ExtTreeMap.ofList entries compare)
    (hkeys : (entries.map (·.1)).Nodup) (hentry : (key, value) ∈ entries) :
    requiredDetail record key = .ok value := by
  rw [requiredDetail, hdetails, OrderedMap.getElem?_ofList hkeys hentry]
  rfl

theorem LedgerCall.readable {call : LedgerCall} {entry : LedgerEntry}
    (h : call.entry = .ok entry) (hrecord : record.entry = entry) : record.Readable := by
  cases call with
  | provisionTenant eventId actor provisioning =>
    simp only [LedgerCall.entry, bind_eq_ok] at h
    obtain ⟨_, hvalid, h⟩ := h
    obtain rfl := Except.ok.inj h
    cases record
    cases hrecord
    constructor
    · intro _
      refine ⟨provisioning, ?_⟩
      simp only [provisioningOf, parseBoolDetail, bind_eq_ok]
      refine ⟨provisioning.workspaceId, ?_, provisioning.plan.asStr, ?_,
        provisioning.plan, CommercialPlan.parse_asStr _,
        provisioning.retentionPolicyId, ?_, provisioning.selfHosted,
        ⟨toString provisioning.selfHosted, ?_, ?_⟩, (), ?_, rfl⟩
      · exact requiredDetail_of_entry rfl (by simp) (by simp)
      · exact requiredDetail_of_entry rfl (by simp) (by simp)
      · exact requiredDetail_of_entry rfl (by simp) (by simp)
      · exact requiredDetail_of_entry rfl (by simp) (by simp)
      · cases provisioning.selfHosted <;> rfl
      · exact hvalid
    · intro hobservation
      simp [isObservation, subscriptionObservedType] at hobservation
  | recordSubscription eventId actor observedAt subscription =>
    simp only [LedgerCall.entry, bind_eq_ok] at h
    obtain ⟨_, hvalid, _, _, h⟩ := h
    obtain rfl := Except.ok.inj h
    obtain ⟨_, sequence, _, _, _, _, _, _, _, _⟩ := record
    cases hrecord
    constructor
    · intro hprovisioning
      simp [isProvisioning, tenantProvisionedType] at hprovisioning
    · intro _
      refine ⟨⟨sequence, subscription⟩, ?_⟩
      simp only [recordedSubscription, bind_eq_ok]
      refine ⟨subscription.subscriptionId, ?_, subscription.plan.asStr, ?_,
        subscription.plan, CommercialPlan.parse_asStr _, subscription.status.asStr, ?_,
        subscription.status, BillingStatus.parse_asStr _, subscription.effectiveAt, ?_,
        subscription.expiresAt, ?_, subscription.paymentProvider, ?_,
        subscription.externalCustomerRef, ?_, subscription.paymentEvidenceHash, ?_, (),
        hvalid, rfl⟩
      all_goals exact requiredDetail_of_entry rfl (by simp) (by simp)

/-! ## One provisioning a tenant -/

def provisionedTenants (records : List CommercialLedgerRecord) : List String :=
  (records.filter isProvisioning).map (·.tenantId)

theorem addProvisioning_eq_ok {map' : OrderedMap String TenantProvisioning}
    : addProvisioning map record = .ok map' ↔
      ∃ provisioning, provisioningOf record = .ok provisioning ∧ record.tenantId ∉ map ∧
        map.insert record.tenantId provisioning = map' := by
  simp only [addProvisioning, bind_eq_ok, refuseIf_eq_ok, exists_const, pure_eq_ok]
  refine exists_congr fun provisioning => and_congr_right fun h => ?_
  rw [(provisioningOf_eq_ok h).1]

theorem exists_foldlM_addProvisioning :
    (∃ map', records.foldlM addProvisioning map = .ok map') ↔
      (∀ record ∈ records, ∃ provisioning, provisioningOf record = .ok provisioning) ∧
        (records.map (·.tenantId)).Nodup ∧
        ∀ record ∈ records, record.tenantId ∉ map := by
  induction records generalizing map with
  | nil => simp [pure, Except.pure]
  | cons record rest ih =>
    simp only [foldlM_cons, bind_eq_ok, addProvisioning_eq_ok]
    constructor
    · rintro ⟨map', _, ⟨provisioning, hread, hfresh, rfl⟩, hrest⟩
      obtain ⟨hreads, hnodup, hfreshes⟩ := ih.mp ⟨map', hrest⟩
      refine ⟨?_, ?_, ?_⟩
      · exact forall_mem_cons.mpr ⟨⟨provisioning, hread⟩, hreads⟩
      · rw [map_cons, nodup_cons]
        refine ⟨?_, hnodup⟩
        intro hmem
        obtain ⟨other, hother, hsame⟩ := mem_map.mp hmem
        apply hfreshes other hother
        simp [hsame]
      · intro other hother
        obtain rfl | hother := mem_cons.mp hother
        · exact hfresh
        · intro hmem
          apply hfreshes other hother
          simp [hmem]
    · rintro ⟨hreads, hnodup, hfreshes⟩
      obtain ⟨⟨provisioning, hread⟩, hreads⟩ :=
        forall_mem_cons.mp hreads
      obtain ⟨hfresh, hfreshes⟩ := forall_mem_cons.mp hfreshes
      rw [map_cons, nodup_cons] at hnodup
      have hrest : ∃ map', rest.foldlM addProvisioning
          (map.insert record.tenantId provisioning) = .ok map' := by
        refine ih.mpr ⟨hreads, hnodup.2, ?_⟩
        intro other hother hmem
        rw [Std.ExtTreeMap.mem_insert] at hmem
        obtain hsame | hmem := hmem
        · apply hnodup.1
          rw [Std.LawfulEqCmp.eq_of_compare hsame]
          exact mem_map_of_mem hother
        · exact hfreshes other hother hmem
      obtain ⟨map', hrest⟩ := hrest
      exact ⟨map', _, ⟨provisioning, hread, hfresh, rfl⟩, hrest⟩

theorem foldlM_addProvisioning_get {records : List CommercialLedgerRecord}
    {map map' : OrderedMap String TenantProvisioning} {tenantId : String}
    (h : records.foldlM addProvisioning map = .ok map') :
    (∀ provisioning, map'[tenantId]? = some provisioning →
      map[tenantId]? = some provisioning ∨ ∃ record ∈ records,
        record.tenantId = tenantId ∧ provisioningOf record = .ok provisioning) ∧
      (tenantId ∈ records.map (·.tenantId) ∨ map[tenantId]?.isSome →
        map'[tenantId]?.isSome) := by
  induction records generalizing map with
  | nil =>
    obtain rfl := Except.ok.inj h
    simp
  | cons record rest ih =>
    simp only [foldlM_cons, bind_eq_ok, addProvisioning_eq_ok] at h
    obtain ⟨_, ⟨provisioning, hread, _, rfl⟩, hrest⟩ := h
    obtain ⟨hfound, hkept⟩ := ih hrest
    rw [getElem?_insert] at hfound hkept
    constructor
    · intro found hget
      obtain hget | ⟨other, hother, hsame⟩ := hfound found hget
      · split at hget
        · rename_i hsame
          obtain rfl := Option.some.inj hget
          exact .inr ⟨record, mem_cons_self, Std.LawfulEqCmp.eq_of_compare hsame, hread⟩
        · exact .inl hget
      · exact .inr ⟨other, mem_cons_of_mem _ hother, hsame⟩
    · intro hmem
      apply hkept
      split
      · exact .inr rfl
      · rename_i hne
        rw [map_cons, mem_cons] at hmem
        obtain (rfl | hmem) | hmem := hmem
        · exact absurd Std.ReflCmp.compare_self hne
        · exact .inl hmem
        · exact .inr hmem

/-- The facts of a ledger stand exactly when every record can be read and no
tenant is provisioned twice. -/
theorem checkFacts_eq_ok :
    checkFacts records = .ok () ↔ (∀ record ∈ records, record.Readable) ∧
        (provisionedTenants records).Nodup := by
  have hprovisionings : (∃ map, provisionings records = .ok map) ↔
      (∀ record ∈ records.filter isProvisioning, ∃ provisioning,
        provisioningOf record = .ok provisioning) ∧
        (provisionedTenants records).Nodup := by
    rw [provisionings, exists_foldlM_addProvisioning]
    simp [provisionedTenants]
  have hsubscriptions : (∃ observed, subscriptions records = .ok observed) ↔
      ∀ record ∈ records.filter isObservation, ∃ recorded,
        recordedSubscription record = .ok recorded := by
    constructor
    · rintro ⟨observed, h⟩ record hrecord
      exact (collect_mem h).1 record hrecord
    · exact exists_collect
  simp only [checkFacts, bind_eq_ok]
  constructor
  · rintro ⟨map, hmap, observed, hobserved, _⟩
    obtain ⟨hreads, hnodup⟩ := hprovisionings.mp ⟨map, hmap⟩
    have hobservations := hsubscriptions.mp ⟨observed, hobserved⟩
    refine ⟨?_, hnodup⟩
    intro record hrecord
    constructor
    · intro hkind
      exact hreads record (mem_filter.mpr ⟨hrecord, hkind⟩)
    · intro hkind
      exact hobservations record (mem_filter.mpr ⟨hrecord, hkind⟩)
  · rintro ⟨hreadable, hnodup⟩
    obtain ⟨map, hmap⟩ := hprovisionings.mpr ⟨by
      intro record hrecord
      obtain ⟨hrecord, hkind⟩ := mem_filter.mp hrecord
      exact (hreadable record hrecord).provisioning hkind, hnodup⟩
    obtain ⟨observed, hobserved⟩ := hsubscriptions.mpr (by
      intro record hrecord
      obtain ⟨hrecord, hkind⟩ := mem_filter.mp hrecord
      exact (hreadable record hrecord).observation hkind)
    exact ⟨map, hmap, observed, hobserved, rfl⟩

end Follon.Commercial
