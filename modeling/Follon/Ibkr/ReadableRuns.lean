import Follon.Ibkr.Executions
import Follon.Ibkr.ReadableAnswers

/-!
# Batches the host reads

Every batch of events and every snapshot of a run is accepted by the host, as
long as the numbers that are reported have at most eight places and the forms
the host reads, and a response fits the limit.
-/

namespace Follon.Ibkr

open Foundation Domain

/-! ## Identifiers and reasons -/

theorem isCanonicalId_of_chars {stem rest : String} (hne : stem ≠ "")
    (hstem : stem.toList.all isCanonicalChar = true)
    (hrest : rest.toList.all isCanonicalChar = true) :
    isCanonicalId (stem ++ rest) = true := by
  simp only [isCanonicalId, and_eq_true, Bool.not_eq_true',
    String.isEmpty_eq_false_iff, toList_append, List.all_append]
  refine ⟨?_, hstem, hrest⟩
  intro hempty
  exact hne (String.append_eq_empty_iff.mp hempty).1

theorem isCanonicalChar_of_isAsciiDigit {c : Char}
    (h : isAsciiDigit c = true) : isCanonicalChar c = true := by
  simp [isCanonicalChar, h]

theorem all_toString (n : Int) : (toString n).toList.all isCanonicalChar = true := by
  rw [all_eq_true]
  intro c hc
  rw [Json.toList_toString] at hc
  rw [mem_append] at hc
  cases hc with
  | inl hsign =>
    split at hsign
    · rw [mem_singleton] at hsign
      rw [hsign]
      decide
    · exact absurd hsign not_mem_nil
  | inr hdigit =>
    exact isCanonicalChar_of_isAsciiDigit
      (isAsciiDigit_of_mem_toDigits hdigit)

theorem isCanonicalId_brokerOrderIdOf (orderId : Int) :
    isCanonicalId (brokerOrderIdOf orderId) = true :=
  isCanonicalId_of_chars (by decide) (by decide) (all_toString orderId)

theorem isCanonicalId_foreignOrderId (orderId : Int) (order : OrderReport) :
    isCanonicalId (foreignOrderId orderId order) = true := by
  unfold foreignOrderId
  apply isCanonicalId_of_chars (by decide) (by decide)
  split
  · exact all_toString _
  · rw [toList_append, toList_append, List.all_append,
      List.all_append, all_toString, all_toString]
    rfl

theorem isCanonicalId_canonicalExecutionId (executionId : String) :
    isCanonicalId (canonicalExecutionId executionId) = true := by
  apply isCanonicalId_of_chars (by decide) (by decide)
  rw [toList_ofList, all_eq_true]
  intro d hd
  obtain ⟨c, _, hmem⟩ := List.mem_flatMap.mp hd
  clear hd
  unfold executionIdChars at hmem
  split at hmem
  · have hall : ['i', '-'].all isCanonicalChar = true := by
      decide
    exact all_eq_true.mp hall d hmem
  · split at hmem
    · have hall : ['k'].all isCanonicalChar = true := by
        decide
      exact all_eq_true.mp hall d hmem
    · dsimp only at hmem
      split at hmem
      · next hplain =>
          rw [mem_singleton] at hmem
          rw [hmem]
          simp only [isCanonicalChar, or_eq_true] at hplain ⊢
          tauto
      · rw [mem_singleton] at hmem
        rw [hmem]
        decide

theorem isReason_errorReason {code : Int}
    (hsize : (App.errorReason code).utf8ByteSize ≤ 1024) :
    IsReason (App.errorReason code) := by
  have hchars : (App.errorReason code).toList
      = "IBKR_ERROR_".toList ++ (toString code).toList :=
    toList_append
  have hletters : ∀ c ∈ "IBKR_ERROR_".toList,
      c ≠ '\r' ∧ c ≠ '\n' ∧ Json.isBasic c = true := by
    have hplain : "IBKR_ERROR_".toList.all (fun c =>
        c != '\r' && c != '\n' && Json.isBasic c) = true := by
      decide
    intro c hc
    have hchar := all_eq_true.mp hplain c hc
    simp only [and_eq_true, bne_iff_ne] at hchar
    exact ⟨hchar.1.1, hchar.1.2, hchar.2⟩
  have hdigits : ∀ c ∈ (toString code).toList,
      c ≠ '\r' ∧ c ≠ '\n' ∧ Json.isBasic c = true := by
    intro c hc
    have hcanonical := all_eq_true.mp (all_toString code) c hc
    refine ⟨?_, ?_, isBasic_of_isCanonicalChar hcanonical⟩
    · rintro rfl
      exact Bool.noConfusion hcanonical
    · rintro rfl
      exact Bool.noConfusion hcanonical
  have hall : ∀ c ∈ (App.errorReason code).toList,
      c ≠ '\r' ∧ c ≠ '\n' ∧ Json.isBasic c = true := by
    intro c hc
    rw [hchars, mem_append] at hc
    cases hc with
    | inl hc => exact hletters c hc
    | inr hc => exact hdigits c hc
  have hblank : isBlank (App.errorReason code) = false := by
    rw [isBlank, hchars, List.all_append]
    have hfirst : "IBKR_ERROR_".toList.all isWhiteSpace = false := by
      decide
    rw [hfirst, Bool.false_and]
  constructor
  · apply refuseIf_of_not
    rw [hblank]
    simp only [Bool.false_eq_true, false_or, not_or, not_lt]
    exact ⟨hsize, fun hmem => (hall _ hmem).1 rfl,
      fun hmem => (hall _ hmem).2.1 rfl⟩
  · rw [all_eq_true]
    exact fun c hc => (hall c hc).2.2

/-! ## Numbers -/

def HasEightPlaces (text : String) : Prop :=
  ∀ d, safeDecimal text = .value d → -8 ≤ d.exponent

variable {text : String} {d : PythonDecimal}

theorem exceedsLimit_of_safeDecimal (h : safeDecimal text = .value d)
    : exceedsLimit d = false := by
  unfold safeDecimal at h
  split at h
  · split at h
    · contradiction
    · split at h
      · contradiction
      · next hlimit =>
          obtain rfl := Safe.value.inj h
          rwa [not_eq_true] at hlimit
  · contradiction

theorem fitsHost_of_places (hplaces : -8 ≤ d.exponent)
    (hlimit : exceedsLimit d = false) : FitsHost d := by
  refine ⟨hplaces, ?_⟩
  have hmax : i128Max = 170141183460469231731687303715884105727 := rfl
  unfold exceedsLimit at hlimit
  unfold scaledMagnitude
  split at hlimit
  · next hwhole =>
      have hpower : (d.exponent + 8).toNat = d.exponent.toNat + 8 := by omega
      rw [decide_eq_false_iff_not, not_lt] at hlimit
      rw [hpower, Nat.pow_add, ← Nat.mul_assoc]
      generalize d.coefficient * 10 ^ d.exponent.toNat = whole at *
      omega
  · next hwhole =>
      have hpower : (d.exponent + 8).toNat + d.exponent.natAbs = 8 := by omega
      rw [decide_eq_false_iff_not, not_lt] at hlimit
      have hscaled := Nat.mul_le_mul_right (10 ^ (d.exponent + 8).toNat) hlimit
      rw [Nat.mul_assoc (2 * 10 ^ 27 + 1), Nat.mul_comm (10 ^ d.exponent.natAbs),
        ← Nat.pow_add, hpower, Nat.mul_assoc] at hscaled
      generalize d.coefficient * 10 ^ (d.exponent + 8).toNat = magnitude at *
      omega

theorem isHostDecimal_plain (hplaces : HasEightPlaces text)
    (h : safeDecimal text = .value d) : IsHostDecimal d.plain := by
  obtain ⟨e, hparse, _⟩ := parse_plain
    (fitsHost_of_places (hplaces d h) (exceedsLimit_of_safeDecimal h))
  exact ⟨e, hparse⟩

theorem safeDecimal_of_filter {keep : PythonDecimal → Bool}
    (h : (safeDecimal text).filter keep = .value d) :
    safeDecimal text = .value d ∧ keep d = true := by
  cases hsafe : safeDecimal text with
  | value parsed =>
    rw [hsafe] at h
    simp only [Safe.filter] at h
    split at h
    · next hkeep =>
        obtain rfl := Safe.value.inj h
        exact ⟨rfl, hkeep⟩
    · contradiction
  | refused =>
    rw [hsafe] at h
    contradiction
  | raises =>
    rw [hsafe] at h
    contradiction

theorem isHostQuantity_plain (hplaces : HasEightPlaces text)
    (h : safeNonnegativeDecimal text = .value d) : IsHostQuantity d.plain := by
  obtain ⟨hsafe, hnonnegative⟩ := safeDecimal_of_filter h
  obtain ⟨e, hparse, hscaled⟩ := parse_plain
    (fitsHost_of_places (hplaces d hsafe) (exceedsLimit_of_safeDecimal hsafe))
  refine ⟨e, hparse, ?_⟩
  rw [le_def, scaled_zero, hscaled]
  simp only [PythonDecimal.isNonnegative, or_eq_true, Bool.not_eq_true',
    beq_iff_eq] at hnonnegative
  split
  · next hnegative =>
      have hzero : d.coefficient = 0 := by
        simpa [hnegative] using hnonnegative
      simp [scaledMagnitude, hzero]
  · exact Int.natCast_nonneg _

/-! ## What the bridge keeps can be read -/

/-- What is checked of the instrument map as it is loaded, and what the clock
makes of a day and a time is a time. -/
structure BridgeConfiguration.Loaded (config : BridgeConfiguration) : Prop where
  instruments : ∀ entry ∈ config.instruments, isCanonicalId entry.1 = true
  instants : ∀ day clock zone text, config.instantText day clock zone = some text →
      hasUtcShape text = true → isUtcTimestamp text = true

structure App.Readable (app : App) : Prop where
  clients : ∀ (orderId : Int) (clientOrderId : String),
    app.clientByOrder[orderId]? = some clientOrderId → isCanonicalId clientOrderId = true
  events : ∀ event ∈ app.events.waiting, event.IsReadable
  orders : ∀ (key : String) (row : OrderRow), app.orders[key]? = some row → row.IsReadable
  positions : ∀ (key value : String), app.positions[key]? = some value →
    IsReadablePosition (key, value)
  cash : ∀ value, app.cash = some value → IsHostDecimal value

namespace App

variable {config : BridgeConfiguration} {app app' : App}

theorem readable_new : App.new.Readable where
  clients := fun _ _ hfound => by
    contradiction
  events := fun _ hmem => absurd hmem not_mem_nil
  orders := fun _ _ hfound => by
    contradiction
  positions := fun _ _ hfound => by
    contradiction
  cash := fun _ hcash => by
    contradiction

theorem Readable.same (h : app.Readable)
    (hclients : app'.clientByOrder = app.clientByOrder)
    (hevents : app'.events = app.events) (horders : app'.orders = app.orders)
    (hpositions : app'.positions = app.positions)
    (hcash : app'.cash = app.cash) : app'.Readable where
  clients := by
    rw [hclients]
    exact h.clients
  events := by
    rw [hevents]
    exact h.events
  orders := by
    rw [horders]
    exact h.orders
  positions := by
    rw [hpositions]
    exact h.positions
  cash := by
    rw [hcash]
    exact h.cash

theorem Readable.put (h : app.Readable) {event : BridgeEvent}
    (hevent : event.IsReadable) : (app.put event).Readable where
  clients := h.clients
  events := by
    intro other hmem
    change other ∈ app.events.waiting ++ [event] at hmem
    cases mem_append.mp hmem with
    | inl hmem => exact h.events other hmem
    | inr hmem =>
      rw [mem_singleton] at hmem
      exact hmem ▸ hevent
  orders := h.orders
  positions := h.positions
  cash := h.cash

variable {clientOrderId : String}

theorem Readable.mapOrder (h : app.Readable) (orderId : Int)
    (hid : isCanonicalId clientOrderId = true) :
    (app.mapOrder orderId clientOrderId).Readable where
  clients := by
    intro other found hfound
    change (app.clientByOrder.insert orderId clientOrderId)[other]? = _
      at hfound
    by_cases hsame : orderId = other
    · subst hsame
      rw [getElem?_insert_self] at hfound
      exact Option.some.inj hfound ▸ hid
    · rw [getElem?_insert_of_ne _ _ hsame] at hfound
      exact h.clients other found hfound
  events := h.events
  orders := h.orders
  positions := h.positions
  cash := h.cash

theorem Readable.setOrder (h : app.Readable)
    (hid : isCanonicalId clientOrderId = true) (orderId : Int)
    (state : BridgeState) {filledQuantity : String}
    (hfilled : IsHostQuantity filledQuantity) :
    (app.setOrder clientOrderId orderId state filledQuantity).Readable where
  clients := h.clients
  events := h.events
  orders := by
    intro key row hfound
    change (app.orders.insert clientOrderId _)[key]? = _ at hfound
    by_cases hsame : clientOrderId = key
    · subst hsame
      rw [getElem?_insert_self] at hfound
      obtain rfl := Option.some.inj hfound
      exact ⟨hid, isCanonicalId_brokerOrderIdOf orderId, hfilled⟩
    · rw [getElem?_insert_of_ne _ _ hsame] at hfound
      exact h.orders key row hfound
  positions := h.positions
  cash := h.cash

theorem Readable.filledOf (h : app.Readable) (clientOrderId : String) :
    IsHostQuantity (app.filledOf clientOrderId) := by
  unfold App.filledOf
  cases hfound : app.orders[clientOrderId]? with
  | none => exact ⟨Decimal.zero, by decide, by decide⟩
  | some row => exact (h.orders clientOrderId row hfound).filledQuantity

/-! ## Callbacks -/

theorem Readable.recordOpen (h : app.Readable)
    (hid : isCanonicalId clientOrderId = true) (orderId : Int) (status : String) :
    (app.recordOpen orderId clientOrderId status).Readable := by
  unfold App.recordOpen
  split
  · exact h.setOrder hid orderId _ (h.filledOf clientOrderId)
  · exact h

theorem Readable.openOrder (h : app.Readable) (orderId : Int)
    (order : OrderReport) (status : String) :
    (app.openOrder config orderId order status).Readable := by
  have hraised : (app.raiseNextOrderId orderId).Readable := by
    unfold App.raiseNextOrderId
    split
    · exact h.same rfl rfl rfl rfl rfl
    · exact h
  unfold App.openOrder
  dsimp only
  split
  · exact hraised
  · split
    · next howned =>
        rw [OrderReport.isOwned, and_eq_true] at howned
        exact (hraised.mapOrder orderId howned.2).recordOpen howned.2 _ _
    · exact hraised.recordOpen (isCanonicalId_foreignOrderId _ _) _ _

def Refuses (clientOrderId : String) (normalized : BridgeState) (app : App) : Prop :=
  (app.stateOf clientOrderId).any BridgeState.isTerminal = true ∧
    app.stateOf clientOrderId ≠ some normalized

variable {filled executionId : String}

theorem Readable.changeState (h : app.Readable)
    (hid : isCanonicalId clientOrderId = true) (orderId : Int) (normalized : BridgeState)
    (hfilled : ¬app.Refuses clientOrderId normalized → IsHostQuantity filled) :
    (app.changeState clientOrderId orderId normalized filled).Readable := by
  have hcancelled : IsReason "IBKR_PAPER_CANCELLED" := by
    constructor <;> decide
  have hrejected : IsReason "IBKR_PAPER_REJECTED" := by
    constructor <;> decide
  unfold App.changeState
  dsimp only
  split
  · exact h
  · next hopen =>
      have hset := h.setOrder hid orderId normalized (hfilled hopen)
      unfold App.announce
      split
      · exact hset.put ⟨hid, isCanonicalId_brokerOrderIdOf orderId⟩
      · split
        · exact hset.put ⟨hid, hcancelled⟩
        · split
          · exact hset.put ⟨hid, hrejected⟩
          · exact hset

theorem Readable.orderStatus (h : app.Readable) {orderId clientId : Int}
    {status remaining : String}
    (hfilled : clientId = config.clientId → ∀ clientOrderId normalized,
      app.clientByOrder[orderId]? = some clientOrderId →
      normalizeOrderState status filled remaining = some normalized →
      ¬app.Refuses clientOrderId normalized → IsHostQuantity filled) :
    (app.orderStatus config orderId status filled remaining
      clientId).Readable := by
  unfold App.orderStatus
  split
  · exact h
  · next hclient =>
      rw [not_not] at hclient
      split
      · exact h
      · next clientOrderId hfound =>
          split
          · exact h
          · next normalized hnormalized =>
              have hquantity := hfilled hclient clientOrderId normalized hfound
                hnormalized
              have hid := h.clients orderId clientOrderId hfound
              dsimp only
              split
              · have hdiscard : (app.discardCancel clientOrderId).Readable :=
                  h.same rfl rfl rfl rfl rfl
                exact hdiscard.changeState hid orderId _ hquantity
              · exact h.changeState hid orderId _ hquantity

theorem Readable.error (h : app.Readable) (reqId : Int) {details : List ErrorDetail}
    (hsize : (errorReason (errorCodeOf details)).utf8ByteSize ≤ 1024) :
    (app.error reqId details).Readable := by
  have hreason := isReason_errorReason hsize
  unfold App.error
  dsimp only
  split
  · exact h.same rfl rfl rfl rfl rfl
  · split
    · exact h.same rfl rfl rfl rfl rfl
    · split
      · exact h
      · split
        · exact h
        · next clientOrderId hfound =>
            have hid := h.clients reqId clientOrderId hfound
            split
            · unfold App.failCancel
              split
              · have hdiscard : (app.discardCancel clientOrderId).Readable :=
                  h.same rfl rfl rfl rfl rfl
                exact hdiscard.put ⟨hid, hreason⟩
              · exact h
            · unfold App.rejectOrder
              split
              · exact h
              · have hset := h.setOrder hid reqId .rejected
                  (h.filledOf clientOrderId)
                exact hset.put ⟨hid, hreason⟩

def DueFits (config : BridgeConfiguration) (executionId : String) (app : App) : Prop :=
  executionId ∉ app.emittedExecutions →
  (app.dueEvent config executionId).isSome = true → ∀ conId execution commission,
      app.executionData[executionId]? = some (conId, execution) →
      app.commissions[executionId]? = some commission →
        HasEightPlaces commission ∧ HasEightPlaces execution.shares ∧
          HasEightPlaces execution.price

theorem isReadable_executionEvent (hconfig : config.Loaded)
    {commission : String} {conId : Int} {execution : Execution} {event : BridgeEvent}
    (hevent : executionEvent config executionId conId execution commission
      clientOrderId = some event) (hcommission : HasEightPlaces commission)
    (hshares : HasEightPlaces execution.shares)
    (hprice : HasEightPlaces execution.price) : event.IsReadable := by
  have hid := isCanonicalId_of_executionEvent hevent
  have hsafe : ∀ {safe : Safe} {d : PythonDecimal}, safe.toOption = some d →
      safe = .value d := by
    intro safe d hsome
    cases safe with
    | value parsed => exact congrArg Safe.value (Option.some.inj hsome)
    | refused => contradiction
    | raises => contradiction
  unfold executionEvent at hevent
  split at hevent
  · contradiction
  · simp only [bind_eq_bind, bind_eq_some_iff,
      Option.some.injEq] at hevent
    obtain ⟨_, _, fee, hfee, quantity, hquantity, price, hpriceValue, executedAt,
      htime, rfl⟩ := hevent
    have hshaped : ∀ {day clock zone : String},
        ((config.instantText day clock zone).bind fun normalized =>
          if hasUtcShape normalized = true then some normalized else none)
            = some executedAt → isUtcTimestamp executedAt = true := by
      intro day clock zone hbind
      obtain ⟨text, hinstant, hshape⟩ := bind_eq_some_iff.mp hbind
      split at hshape
      · next hutc =>
          obtain rfl := Option.some.inj hshape
          exact hconfig.instants _ _ _ _ hinstant hutc
      · contradiction
    have htimestamp : isUtcTimestamp executedAt = true := by
      unfold normalizeExecutionTime at htime
      simp only [bind_eq_bind] at htime
      split at htime
      · exact hshaped htime
      · exact hshaped htime
      · contradiction
    refine ⟨isCanonicalId_canonicalExecutionId _, hid,
      isCanonicalId_brokerOrderIdOf _, ?_, ?_, ?_, htimestamp⟩
    · exact isHostDecimal_plain hshares
        (safeDecimal_of_filter (hsafe hquantity)).1
    · exact isHostDecimal_plain hprice
        (safeDecimal_of_filter (hsafe hpriceValue)).1
    · exact isHostDecimal_plain hcommission (hsafe hfee)

theorem Readable.emit (hconfig : config.Loaded) (h : app.Readable)
    (hfits : app.DueFits config executionId) :
    (app.emitExecutionIfComplete config executionId).Readable := by
  rw [emitExecutionIfComplete_eq]
  split
  · exact h
  · next hmissing =>
      split
      · next event hdue =>
          have hsome : (app.dueEvent config executionId).isSome = true := by
            rw [hdue]
            rfl
          have hevent : event.IsReadable := by
            unfold dueEvent at hdue
            split at hdue
            · next conId execution commission hdata hfee =>
                obtain ⟨hcommission, hshares, hprice⟩ :=
                  hfits hmissing hsome conId execution commission hdata hfee
                exact isReadable_executionEvent hconfig hdue hcommission
                  hshares hprice
            · contradiction
          exact (h.put hevent).same rfl rfl rfl rfl rfl
      · exact h

end App

def Callback.IsFitting (config : BridgeConfiguration) (app : App) : Callback → Prop
  | .orderStatus orderId status filled remaining clientId =>
    clientId = config.clientId → ∀ clientOrderId normalized,
      app.clientByOrder[orderId]? = some clientOrderId →
      normalizeOrderState status filled remaining = some normalized →
      ¬app.Refuses clientOrderId normalized → IsHostQuantity filled
  | .execDetails reqId conId execution =>
    execution.acctNumber = config.brokerAccount →
    execution.clientId = config.clientId →
      (isCanonicalId (app.orderReference execution) = true →
        HasEightPlaces execution.cumQty) ∧
      (app.keepExecution reqId conId execution).DueFits config
        execution.execId
  | .commissionReport execId commission =>
    ({ app with
      commissions := app.commissions.insert execId commission } :
        App).DueFits config execId
  | .position account _ held =>
    account = config.brokerAccount → IsHostDecimal held
  | .accountSummary reqId account tag value currency =>
    app.activeAccountSummaryRequest = some reqId →
    account = config.brokerAccount → tag = "TotalCashValue" →
    currency = config.accountCurrency → IsHostDecimal value
  | .error _ _ details =>
    (App.errorReason (App.errorCodeOf details)).utf8ByteSize ≤ 1024
  | _ => True

namespace App

variable {config : BridgeConfiguration} {app : App}

theorem DueFits.of_same {app' : App} {executionId : String}
    (h : app.DueFits config executionId)
    (hemitted : app'.emittedExecutions = app.emittedExecutions)
    (hdue : app'.dueEvent config executionId = app.dueEvent config executionId)
    (hdata : app'.executionData = app.executionData)
    (hcommissions : app'.commissions = app.commissions) :
    app'.DueFits config executionId := by
  unfold DueFits
  rw [hemitted, hdue, hdata, hcommissions]
  exact h

theorem Readable.recordCumulative (h : app.Readable) {clientOrderId : String}
    (hid : isCanonicalId clientOrderId = true) (orderId : Int)
    {text : String} {cumulative : PythonDecimal} (hplaces : HasEightPlaces text)
    (hvalue : safeNonnegativeDecimal text = .value cumulative) :
    (app.recordCumulative clientOrderId orderId cumulative).Readable :=
  h.setOrder hid orderId _ (isHostQuantity_plain hplaces hvalue)

variable {reqId conId : Int} {account : String}

theorem Readable.execDetails (hconfig : config.Loaded) (h : app.Readable)
    {execution : Execution} (hfitting : Callback.IsFitting config app
      (.execDetails reqId conId execution)) :
    (app.execDetails config reqId conId execution).Readable := by
  unfold App.execDetails
  split
  · exact h
  · next hown =>
      rw [not_or, not_not, not_not] at hown
      obtain ⟨hplaces, hfits⟩ := hfitting hown.1 hown.2
      change isCanonicalId ((app.keepExecution reqId conId
        execution).orderReference execution) = true → _ at hplaces
      have hkept : (app.keepExecution reqId conId execution).Readable :=
        h.same rfl rfl rfl rfl rfl
      have hdata : (app.keepExecution reqId conId
          execution).executionData[execution.execId]? = some (conId, execution) :=
        getElem?_insert_self _ _ _
      generalize app.keepExecution reqId conId execution = kept at *
      have hdue : (kept.mapOrder execution.orderId
          (kept.orderReference execution)).dueEvent config execution.execId
            = kept.dueEvent config execution.execId :=
        dueEvent_mapOrder hdata
      dsimp only
      split
      · next hid =>
          have hmapped := hkept.mapOrder execution.orderId hid
          split
          · exact hmapped
          · exact hmapped.emit hconfig (hfits.of_same rfl hdue rfl rfl)
          · next cumulative hvalue =>
              have hrecorded := hmapped.recordCumulative hid execution.orderId
                (hplaces hid) hvalue
              have hsame : ((kept.mapOrder execution.orderId
                  (kept.orderReference execution)).recordCumulative
                    (kept.orderReference execution) execution.orderId
                    cumulative).dueEvent config execution.execId
                      = kept.dueEvent config execution.execId := by
                rw [dueEvent_recordCumulative, hdue]
              exact hrecorded.emit hconfig (hfits.of_same rfl hsame rfl rfl)
      · exact hkept.emit hconfig hfits

theorem isCanonicalId_instrumentByConId (hconfig : config.Loaded) (conId : Int) :
    isCanonicalId ((config.instrumentByConId conId).getD
      ("unmapped-ibkr-conid-" ++ toString conId)) = true := by
  unfold BridgeConfiguration.instrumentByConId
  cases hfound : config.instruments.reverse.find? (·.2.conId = conId) with
  | none =>
    exact isCanonicalId_of_chars (by decide) (by decide)
      (all_toString conId)
  | some entry =>
    apply hconfig.instruments entry
    exact List.mem_reverse.mp (List.mem_of_find?_eq_some hfound)

theorem Readable.position (hconfig : config.Loaded) (h : app.Readable) {held : String}
    (hfitting : Callback.IsFitting config app (.position account conId held)) :
    (app.position config account conId held).Readable := by
  unfold App.position
  split
  · exact h
  · next haccount =>
      rw [not_not] at haccount
      have hid := isCanonicalId_instrumentByConId hconfig conId
      refine ⟨h.clients, h.events, h.orders, ?_, h.cash⟩
      intro key value hfound
      dsimp only at hfound
      generalize (config.instrumentByConId conId).getD _ = instrumentId at *
      by_cases hsame : instrumentId = key
      · subst hsame
        rw [getElem?_insert_self] at hfound
        obtain rfl := Option.some.inj hfound
        exact ⟨hid, hfitting haccount⟩
      · rw [getElem?_insert_of_ne _ _ hsame] at hfound
        exact h.positions key value hfound

theorem Readable.accountSummary (h : app.Readable)
    {tag value currency : String} (hfitting : Callback.IsFitting config app
      (.accountSummary reqId account tag value currency)) :
    (app.accountSummary config reqId account tag value currency).Readable := by
  unfold App.accountSummary
  split
  · next hactive =>
      obtain ⟨hrequest, haccount, htag, hcurrency⟩ := hactive
      refine ⟨h.clients, h.events, h.orders, h.positions, ?_⟩
      intro cash hcash
      obtain rfl := Option.some.inj hcash
      exact hfitting hrequest haccount htag hcurrency
  · exact h

theorem Readable.apply (hconfig : config.Loaded) (h : app.Readable)
    {callback : Callback} (hfitting : callback.IsFitting config app) :
    (callback.apply config app).Readable := by
  cases callback with
  | nextValidId orderId => exact h.same rfl rfl rfl rfl rfl
  | managedAccounts accountsList => exact h.same rfl rfl rfl rfl rfl
  | connectionClosed => exact h.same rfl rfl rfl rfl rfl
  | openOrder orderId order status => exact h.openOrder orderId order status
  | orderStatus orderId status filled remaining clientId =>
    exact h.orderStatus hfitting
  | completedOrder order status =>
    simp only [Callback.apply, App.completedOrder]
    split
    · exact h.openOrder _ order status
    · exact h
  | completedOrdersEnd => exact h.same rfl rfl rfl rfl rfl
  | openOrderEnd => exact h.same rfl rfl rfl rfl rfl
  | position account conId held => exact h.position hconfig hfitting
  | positionEnd => exact h.same rfl rfl rfl rfl rfl
  | accountSummary reqId account tag value currency =>
    exact h.accountSummary hfitting
  | accountSummaryEnd reqId =>
    simp only [Callback.apply]
    split
    · exact h.same rfl rfl rfl rfl rfl
    · exact h
  | execDetails reqId conId execution => exact h.execDetails hconfig hfitting
  | execDetailsEnd reqId =>
    simp only [Callback.apply]
    split
    · exact h.same rfl rfl rfl rfl rfl
    · exact h
  | commissionReport execId commission =>
    have hkept : ({ app with
        commissions := app.commissions.insert execId commission } :
          App).Readable := h.same rfl rfl rfl rfl rfl
    exact hkept.emit hconfig hfitting
  | error subject reqId details => exact h.error reqId hfitting

end App

/-! ## Sessions -/

def Answer.IsReadable : Answer → Prop
  | .poll events => ∀ event ∈ events, event.IsReadable
  | .snapshot found => found.IsReadable
  | _ => True

structure Session.Readable (session : Session) : Prop where
  app : session.app.Readable
  answers : ∀ answer : Answer, .answered answer ∈ session.trace → answer.IsReadable

variable {payload : Payload}

theorem isCanonicalId_of_canonical {name value : String}
    (h : payload.canonical name = some value) : isCanonicalId value = true := by
  unfold Payload.canonical at h
  split at h
  · split at h
    · next hid => exact Option.some.inj h ▸ hid
    · contradiction
  · contradiction

theorem isCanonicalId_of_validateSubmit {config : BridgeConfiguration}
    {request : SubmitRequest} (h : validateSubmit config payload = .ok request) :
    isCanonicalId request.clientOrderId = true := by
  have hbind : ∀ {α β : Type} {code : String} {found : Option α}
      {next : α → Except String β} {result : β},
      (orRefuse code found >>= next) = .ok result →
        ∃ value, found = some value ∧ next value = .ok result := by
    intro α β code found next result hok
    cases found with
    | none => contradiction
    | some value => exact ⟨value, rfl, hok⟩
  unfold validateSubmit at h
  split at h
  · contradiction
  · obtain ⟨clientOrderId, hcanonical, h⟩ := hbind h
    obtain ⟨accountId, _, h⟩ := hbind h
    have hrest : ∃ contract side quantity limitPrice,
        request = .mk clientOrderId contract side quantity limitPrice := by
      split at h
      · contradiction
      · obtain ⟨_, _, h⟩ := hbind h
        obtain ⟨contract, _, h⟩ := hbind h
        obtain ⟨side, _, h⟩ := hbind h
        obtain ⟨quantity, _, h⟩ := hbind h
        obtain ⟨limitPrice, _, h⟩ := hbind h
        exact ⟨contract, side, quantity, limitPrice, (Except.ok.inj h).symm⟩
    obtain ⟨contract, side, quantity, limitPrice, rfl⟩ := hrest
    exact isCanonicalId_of_canonical hcanonical

namespace Session

variable {config : BridgeConfiguration} {session next : Session}

theorem Readable.withApp (h : session.Readable) (happ : next.app.Readable)
    (htrace : next.trace = session.trace) : next.Readable where
  app := happ
  answers := by
    rw [htrace]
    exact h.answers

variable {app : App}

theorem Readable.log (h : session.Readable) (happ : app.Readable) {work : Work}
    {nextRequestId : Int} {isConnected : Bool} {entries : List Entry}
    (hentries : ∀ answer : Answer, .answered answer ∈ entries →
      answer.IsReadable) : (Session.mk app work nextRequestId isConnected
      (entries ++ session.trace)).Readable where
  app := happ
  answers := by
    intro answer hmem
    cases mem_append.mp hmem with
    | inl hmem => exact hentries answer hmem
    | inr hmem => exact h.answers answer hmem

theorem Readable.moveTo (h : session.Readable) (happ : app.Readable)
    : (session.moveTo app).Readable := by
  apply h.log happ
  intro answer hmem
  rw [newEvents, List.mem_reverse, mem_map] at hmem
  obtain ⟨event, _, heq⟩ := hmem
  contradiction

theorem Readable.answer (h : session.Readable) {answer : Answer}
    (hanswer : answer.IsReadable) : (session.answer answer).Readable := by
  have hentries : ∀ other : Answer, .answered other ∈ [Entry.answered answer] →
      other.IsReadable := by
    intro other hmem
    rw [mem_singleton] at hmem
    exact Entry.answered.inj hmem ▸ hanswer
  exact h.log h.app hentries

theorem readable_start : start.Readable where
  app := App.readable_new
  answers := fun _ hmem => absurd hmem not_mem_nil

theorem Readable.receive (hconfig : config.Loaded) (h : session.Readable)
    {callback : Callback} (hfitting : callback.IsFitting config session.app) :
    (session.receive config callback).Readable := by
  have hlogged : (session.log (.reported callback)).Readable := by
    have hentries : ∀ answer : Answer,
        .answered answer ∈ [Entry.reported callback] → answer.IsReadable := by
      intro answer hmem
      rw [mem_singleton] at hmem
      contradiction
    exact h.log h.app hentries
  exact hlogged.moveTo (h.app.apply hconfig hfitting)

theorem Readable.submit (h : session.Readable) (payload : Payload) :
    (session.submit config payload).Readable := by
  unfold Session.submit
  split
  · exact h.answer trivial
  · next request hrequest =>
      split
      · exact h.answer trivial
      · split
        · exact h.answer trivial
        · split
          · exact h.answer trivial
          · next orderId _ =>
              have hraised : ({ session.app with
                  nextOrderId := some (orderId + 1) } : App).Readable :=
                h.app.same rfl rfl rfl rfl rfl
              have hid := isCanonicalId_of_validateSubmit hrequest
              exact h.withApp (hraised.mapOrder orderId hid) rfl

theorem Readable.refuseCancel (h : session.Readable)
    {clientOrderId code : String} (hid : isCanonicalId clientOrderId = true)
    (hreason : IsReason ("IBKR_BRIDGE_REFUSED_" ++ code)) :
    (session.refuseCancel clientOrderId code).Readable := by
  have hmoved : (session.moveTo (session.app.put (.cancelRejected
      clientOrderId ("IBKR_BRIDGE_REFUSED_" ++ code)))).Readable :=
    h.moveTo (h.app.put ⟨hid, hreason⟩)
  exact hmoved.answer trivial

theorem Readable.cancel (h : session.Readable) (payload : Payload) :
    (session.cancel payload).Readable := by
  have hdisconnected :
      IsReason ("IBKR_BRIDGE_REFUSED_" ++ "GATEWAY_DISCONNECTED") := by
    constructor <;> decide
  have hunknown : IsReason ("IBKR_BRIDGE_REFUSED_" ++ "ORDER_UNKNOWN") := by
    constructor <;> decide
  unfold Session.cancel
  split
  · next clientOrderId _ hcanonical =>
      have hid := isCanonicalId_of_canonical hcanonical
      split
      · exact h.refuseCancel hid hdisconnected
      · split
        · exact h.refuseCancel hid hunknown
        · next orderId _ =>
            have happ : ({ session.app with
                cancelRequested :=
                  clientOrderId :: session.app.cancelRequested } :
                    App).Readable := h.app.same rfl rfl rfl rfl rfl
            have hentries : ∀ answer : Answer,
                .answered answer ∈ [Entry.cancelled orderId] →
                  answer.IsReadable := by
              intro answer hmem
              rw [mem_singleton] at hmem
              contradiction
            exact (h.log happ hentries).answer trivial
  · exact h.answer trivial

theorem Readable.poll (h : session.Readable) (payload : Payload) :
    (session.poll payload).Readable := by
  unfold Session.poll
  split
  · exact h.answer trivial
  · have hdrained : ({ session.app with
        events := session.app.events.drain } : App).Readable :=
      ⟨h.app.clients, fun _ hmem => absurd hmem not_mem_nil, h.app.orders,
        h.app.positions, h.app.cash⟩
    have hsession : ({ session with
        app := { session.app with events := session.app.events.drain } } :
          Session).Readable := h.withApp hdrained rfl
    exact hsession.answer h.app.events

theorem Readable.snapshot (h : session.Readable) (payload : Payload) :
    (session.snapshot config payload).Readable := by
  unfold Session.snapshot
  split
  · exact h.answer trivial
  · refine ⟨⟨h.app.clients, h.app.events, ?_, ?_, ?_⟩, h.answers⟩
    · intro key row hfound
      contradiction
    · intro key value hfound
      contradiction
    · intro value hcash
      contradiction

theorem Readable.retireSummary (h : session.Readable) : session.retireSummary.Readable :=
  h.withApp (h.app.same rfl rfl rfl rfl rfl) rfl

theorem Readable.answerSnapshot (h : session.Readable) :
    session.answerSnapshot.Readable := by
  unfold Session.answerSnapshot
  split
  · exact h.retireSummary.answer trivial
  · next cash hcash =>
      apply h.retireSummary.answer
      refine ⟨?_, ?_, h.app.cash cash hcash⟩
      · intro row hrow
        obtain ⟨entry, hentry, rfl⟩ := mem_map.mp hrow
        exact h.app.orders entry.1 entry.2
          (mem_toList_iff_getElem?_eq_some.mp hentry)
      · intro position hposition
        exact h.app.positions position.1 position.2
          (mem_toList_iff_getElem?_eq_some.mp hposition)

theorem Readable.reconnect (h : session.Readable) (payload : Payload) :
    (session.reconnect payload).Readable := by
  unfold Session.reconnect
  split
  · exact h.answer trivial
  · exact h.withApp (h.app.same rfl rfl rfl rfl rfl) rfl

theorem Readable.settledAnswer (session : Session) (clientOrderId : String)
    (orderId : Int) : (session.settledAnswer clientOrderId orderId).IsReadable := by
  unfold Session.settledAnswer
  split <;> trivial

def FittingStep (config : BridgeConfiguration) (session next : Session) : Prop :=
  Step config session next ∧
    ∀ callback, next = session.receive config callback →
      callback.IsFitting config session.app

theorem FittingStep.callback {callback : Callback}
    (h : callback.IsFitting config session.app) :
    session.FittingStep config (session.receive config callback) :=
  ⟨.callback session callback, fun _ heq => receive_inj heq ▸ h⟩

theorem FittingStep.readable (hconfig : config.Loaded)
    (h : session.FittingStep config next) (hsession : session.Readable) :
    next.Readable := by
  obtain ⟨hstep, hfitting⟩ := h
  cases hstep with
  | callback callback => exact hsession.receive hconfig (hfitting callback rfl)
  | connection isConnected => exact hsession.withApp hsession.app rfl
  | submit h payload => exact hsession.submit payload
  | @place request orderId h =>
    have hentries : ∀ answer : Answer,
        .answered answer ∈ [Entry.placed request.clientOrderId orderId] →
          answer.IsReadable := by
      intro answer hmem
      rw [mem_singleton] at hmem
      contradiction
    exact hsession.log hsession.app hentries
  | settle h hstate => exact hsession.withApp hsession.app rfl
  | answerSubmit h => exact hsession.answer (Readable.settledAnswer _ _ _)
  | submitTimeout h => exact hsession.answer trivial
  | cancel h payload => exact hsession.cancel payload
  | poll h payload => exact hsession.poll payload
  | snapshot h payload => exact hsession.snapshot payload
  | requestSummary h =>
    exact hsession.withApp (hsession.app.same rfl rfl rfl rfl rfl) rfl
  | requestExecutions h =>
    exact hsession.withApp (hsession.app.same rfl rfl rfl rfl rfl) rfl
  | refreshed h hdone =>
    exact hsession.withApp (hsession.app.same rfl rfl rfl rfl rfl) rfl
  | answerSnapshot h hdone => exact hsession.answerSnapshot
  | refreshTimeout h => exact hsession.retireSummary.answer trivial
  | snapshotTimeout h => exact hsession.retireSummary.answer trivial
  | reconnect h payload => exact hsession.reconnect payload
  | connect h hready =>
    exact hsession.withApp (hsession.app.same rfl rfl rfl rfl rfl) rfl
  | reconnected h hdone =>
    have hended : session.endRefresh.Readable :=
      hsession.withApp (hsession.app.same rfl rfl rfl rfl rfl) rfl
    exact hended.answer trivial
  | connectTimeout h => exact hsession.answer trivial
  | reconnectTimeout h => exact hsession.answer trivial

end Session

def IsAccepted (maxResponseBytes requestId : Nat) : Answer → Prop
  | .poll events =>
    (pollLine requestId events).utf8ByteSize + 1 ≤ maxResponseBytes →
      ∃ accepted, pollPaperEvents maxResponseBytes requestId
        (pollLine requestId events) = .ok accepted
  | .snapshot snapshot =>
    (snapshotLine requestId snapshot).utf8ByteSize + 1 ≤ maxResponseBytes →
      ∃ accepted, paperAccountSnapshot maxResponseBytes requestId
        (snapshotLine requestId snapshot) = .ok accepted
  | _ => True

theorem Answer.IsReadable.isAccepted {answer : Answer} (h : answer.IsReadable)
    (maxResponseBytes requestId : Nat) :
    IsAccepted maxResponseBytes requestId answer := by
  cases answer with
  | poll events => exact pollPaperEvents_ok h
  | snapshot snapshot => exact paperAccountSnapshot_ok h
  | submit clientOrderId result => trivial
  | cancel => trivial
  | reconnect => trivial
  | failed => trivial

/-- In every run of fitting steps, the host accepts what is answered. -/
theorem answers_accepted_of_fitting_run {config : BridgeConfiguration}
    (hconfig : config.Loaded) {session : Session}
    (h : Reachable (· = Session.start) (Session.FittingStep config) session) :
    ∀ answer : Answer, .answered answer ∈ session.trace → ∀ maxResponseBytes requestId,
        IsAccepted maxResponseBytes requestId answer := by
  intro answer hmem maxResponseBytes requestId
  have hreadable : session.Readable := by
    apply h.invariant
    · rintro _ rfl
      exact Session.readable_start
    · exact fun _ _ _ hsession hstep => hstep.readable hconfig hsession
  exact (hreadable.answers answer hmem).isAccepted maxResponseBytes requestId

namespace ReadableRun

open Session

theorem loaded : ExecutionRun.config.Loaded where
  instruments := by
    decide
  instants := by
    intro day clock zone text htext _
    obtain rfl := Option.some.inj htext
    decide

def event (fee : String) : BridgeEvent :=
  .execution "ibkr-paper-execution-0001f4e8-65-01" "order.1"
    "ibkr-paper-order-1" "1" "10.5" fee "2026-01-02T14:31:00Z"

theorem FittingStep.quiet {config : BridgeConfiguration}
    {session next : Session} (h : Step config session next)
    (hcallbacks : next.callbacks = session.callbacks) :
    session.FittingStep config next := by
  refine ⟨h, ?_⟩
  rintro callback rfl
  rw [callbacks_receive] at hcallbacks
  exact absurd hcallbacks (List.cons_ne_self _ _)

theorem hasEightPlaces_of_ofText {text : String} {d : PythonDecimal}
    (hread : PythonNumber.ofText text = some (.finite d))
    (hplaces : -8 ≤ d.exponent) : HasEightPlaces text := by
  intro other hsafe
  unfold safeDecimal at hsafe
  rw [hread] at hsafe
  dsimp only at hsafe
  split at hsafe
  · contradiction
  · split at hsafe
    · contradiction
    · obtain rfl := Safe.value.inj hsafe
      exact hplaces

def ready : Session :=
  ({ start with isConnected := true } : Session).receive ExecutionRun.config
    (.nextValidId 1)

def detailed : Session :=
  ready.receive ExecutionRun.config (ExecutionRun.details "0001f4e8.65.01")

def polled (fee : String) : Session :=
  (detailed.receive ExecutionRun.config (.commissionReport "0001f4e8.65.01" fee)).poll []

theorem polled_run (fee : String) : Session.Run ExecutionRun.config (polled fee) :=
  .step (.step (.step (.step (.step (.init rfl) (.connection _ true))
    (.callback _ _)) (.callback _ _)) (.callback _ _)) (.poll rfl [])

theorem mem_polled {fee : String} (hconnected : (detailed.receive ExecutionRun.config
      (.commissionReport "0001f4e8.65.01" fee)).connected = true)
    (hevents : (detailed.receive ExecutionRun.config
      (.commissionReport "0001f4e8.65.01" fee)).app.events.waiting
        = [event fee]) : .answered (.poll [event fee]) ∈ (polled fee).trace := by
  unfold polled poll
  rw [if_neg (by simp [hconnected]), hevents]
  exact mem_cons_self

/-- The fee of an execution is read where it has at most eight places. -/
theorem polled_accepted : IsAccepted 65536 1 (.poll [event "0.3"]) := by
  have hone : HasEightPlaces "1" :=
    @hasEightPlaces_of_ofText "1" ⟨false, 1, 0⟩ (by decide)
      (by decide)
  have hprice : HasEightPlaces "10.5" :=
    @hasEightPlaces_of_ofText "10.5" ⟨false, 105, -1⟩ (by decide)
      (by decide)
  have hfee : HasEightPlaces "0.3" :=
    @hasEightPlaces_of_ofText "0.3" ⟨false, 3, -1⟩ (by decide)
      (by decide)
  have hdetails : (ExecutionRun.details "0001f4e8.65.01").IsFitting
      ExecutionRun.config ready.app := by
    intro _ _
    refine ⟨fun _ => hone, ?_⟩
    intro _ hdue
    have hnone : (ready.app.keepExecution (-1) 265598
        (ExecutionRun.execution "0001f4e8.65.01")).dueEvent
          ExecutionRun.config "0001f4e8.65.01" = none := by
      decide
    change (App.dueEvent ExecutionRun.config "0001f4e8.65.01" _).isSome
      = true at hdue
    rw [hnone] at hdue
    contradiction
  have hreport : (Callback.commissionReport "0001f4e8.65.01" "0.3").IsFitting
      ExecutionRun.config detailed.app := by
    intro _ _ conId execution commission hdata hcommission
    have hkept : detailed.app.executionData["0001f4e8.65.01"]?
        = some (265598, ExecutionRun.execution "0001f4e8.65.01") := by
      rfl
    change detailed.app.executionData["0001f4e8.65.01"]? = _ at hdata
    rw [hkept] at hdata
    obtain rfl := congrArg Prod.snd (Option.some.inj hdata)
    dsimp only at hcommission
    rw [getElem?_insert_self] at hcommission
    obtain rfl := Option.some.inj hcommission
    exact ⟨hfee, hone, hprice⟩
  have hrun : Reachable (· = start) (FittingStep ExecutionRun.config)
      (polled "0.3") := by
    apply Reachable.step _ (FittingStep.quiet (.poll rfl []) rfl)
    apply Reachable.step _ (.callback hreport)
    apply Reachable.step _ (.callback hdetails)
    apply Reachable.step _ (.callback trivial)
    exact Reachable.step (.init rfl) (FittingStep.quiet (.connection _ true) rfl)
  exact answers_accepted_of_fitting_run loaded hrun (.poll [event "0.3"])
    (mem_polled (by decide) (by decide)) 65536 1

/-- A fee of seventeen places loses the batch it is in. -/
theorem polled_lost : ExecutionRun.config.Loaded ∧
      Session.Run ExecutionRun.config (polled "0.30000000000000004") ∧
      .answered (.poll [event "0.30000000000000004"])
        ∈ (polled "0.30000000000000004").trace ∧
      ¬IsAccepted 65536 1 (.poll [event "0.30000000000000004"]) := by
  refine ⟨loaded, polled_run _,
    mem_polled (by decide) (by decide), ?_⟩
  intro haccepted
  obtain ⟨accepted, hok⟩ := haccepted (by decide +kernel)
  rw [pollPaperEvents_pollLine (by decide) (by decide +kernel)] at hok
  have hlost : (normalizeBridgeEvent
      (event "0.30000000000000004").wire).toOption.isSome = false := by
    decide
  cases hread : normalizeBridgeEvent (event "0.30000000000000004").wire with
  | error refusal =>
    rw [List.map_singleton, List.mapM_cons, hread] at hok
    contradiction
  | ok normalized =>
    rw [hread] at hlost
    contradiction

end ReadableRun

end Follon.Ibkr
