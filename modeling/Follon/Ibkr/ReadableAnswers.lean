import Follon.Domain.PlainNumeral
import Follon.Ibkr.Transport

/-!
# Answers the host reads

What an event and a row of a snapshot must be for the host to accept the
answer they are in.
-/

namespace Follon.Ibkr

open Foundation Domain Paper

/-! ## Characters -/

variable {c : Char} {text : String} {maxResponseBytes requestId : Nat}

theorem isBasic_of_lt (h : c.toNat < 0x10000) : Json.isBasic c = true := by
  rw [Json.isBasic, decide_eq_true_eq]
  exact h

theorem isBasic_of_isCanonicalChar (h : isCanonicalChar c = true) :
    Json.isBasic c = true := by
  apply isBasic_of_lt
  simp only [isCanonicalChar, isAsciiDigit, or_eq_true, and_eq_true,
    decide_eq_true_eq, beq_iff_eq, Char.le_def] at h
  obtain (((⟨_, hz⟩ | ⟨_, hnine⟩) | rfl) | rfl) | rfl := h
  · have : c.toNat ≤ 122 := hz
    omega
  · have : c.toNat ≤ 57 := hnine
    omega
  · decide
  · decide
  · decide

variable {value : String} {d : Decimal} {α β : Type} {event : BridgeEvent}
  {events : List BridgeEvent} {row : OrderRow} {position : String × String}

theorem all_isBasic_of_isCanonicalId (h : isCanonicalId value = true)
    : value.toList.all Json.isBasic = true := by
  rw [isCanonicalId, and_eq_true] at h
  rw [all_eq_true]
  intro c hc
  exact isBasic_of_isCanonicalChar (all_eq_true.mp h.2 c hc)

theorem isBasic_of_isAsciiDigit (h : isAsciiDigit c = true) : Json.isBasic c = true := by
  apply isBasic_of_isCanonicalChar
  simp [isCanonicalChar, h]

theorem mem_trimChars {cs : List Char} (h : c ∈ cs) :
    isWhiteSpace c = true ∨ c ∈ trimChars cs := by
  have hsides : ∀ {ds : List Char}, c ∈ ds →
      isWhiteSpace c = true ∨ c ∈ ds.dropWhile isWhiteSpace := by
    intro ds hds
    rw [← List.takeWhile_append_dropWhile (p := isWhiteSpace) (l := ds),
      mem_append] at hds
    exact hds.imp_left List.mem_takeWhile_imp
  cases hsides h with
  | inl hspace => exact .inl hspace
  | inr hrest =>
    cases hsides (List.mem_reverse.mpr hrest) with
    | inl hspace => exact .inl hspace
    | inr hkept => exact .inr (List.mem_reverse.mpr hkept)

theorem isBasic_of_isWhiteSpace (h : isWhiteSpace c = true) : Json.isBasic c = true := by
  apply isBasic_of_lt
  simp only [isWhiteSpace, or_eq_true, and_eq_true,
    decide_eq_true_eq, beq_iff_eq] at h
  omega

theorem isBasic_of_parseUnsigned {source unsigned : List Char} {negative : Bool}
    (h : Decimal.parseUnsigned source negative unsigned = .ok d) :
    ∀ c ∈ unsigned, Json.isBasic c = true := by
  unfold Decimal.parseUnsigned at h
  simp only [bind_eq_ok, refuseIf_eq_ok] at h
  obtain ⟨_, _, _, hdigits, _⟩ := h
  simp only [Decimal.splitPoint, not_or, not_eq_false,
    all_eq_true] at hdigits
  obtain ⟨_, hwhole, hfraction, _⟩ := hdigits
  intro c hc
  rw [← List.takeWhile_append_dropWhile (p := (· != '.')) (l := unsigned),
    mem_append] at hc
  cases hc with
  | inl hc => exact isBasic_of_isAsciiDigit (hwhole c hc)
  | inr hc =>
    cases hrest : unsigned.dropWhile (· != '.') with
    | nil =>
      rw [hrest] at hc
      exact absurd hc not_mem_nil
    | cons first rest =>
      rw [hrest, mem_cons] at hc
      cases hc with
      | inl heq =>
        have hsome : unsigned.dropWhile (· != '.') ≠ [] := by
          rw [hrest]
          exact List.cons_ne_nil _ _
        have hfirst := List.head_dropWhile_not (· != '.') hsome
        simp only [hrest, List.head_cons, bne_eq_false_iff_eq] at hfirst
        rw [heq, hfirst]
        decide
      | inr hc =>
        apply isBasic_of_isAsciiDigit
        apply hfraction
        rw [hrest]
        exact hc

theorem all_isBasic_of_parse (h : Decimal.parse text = .ok d) :
    text.toList.all Json.isBasic = true := by
  rw [all_eq_true]
  intro c hc
  cases mem_trimChars hc with
  | inl hspace => exact isBasic_of_isWhiteSpace hspace
  | inr hkept =>
    unfold Decimal.parse Decimal.parseChars at h
    dsimp only at h
    split at h
    · contradiction
    · next unsigned htrim =>
        rw [htrim, mem_cons] at hkept
        cases hkept with
        | inl heq =>
          rw [heq]
          decide
        | inr hmem => exact isBasic_of_parseUnsigned h c hmem
    · next unsigned htrim =>
        rw [htrim, mem_cons] at hkept
        cases hkept with
        | inl heq =>
          rw [heq]
          decide
        | inr hmem => exact isBasic_of_parseUnsigned h c hmem
    · exact isBasic_of_parseUnsigned h c hkept

theorem all_isBasic_of_isUtcTimestamp (h : isUtcTimestamp value = true)
    : value.toList.all Json.isBasic = true := by
  rw [all_eq_true]
  intro c hc
  rw [isUtcTimestamp, and_eq_true, hasCanonicalShape, and_eq_true,
    all_eq_true] at h
  obtain ⟨index, hindex, heq⟩ := List.getElem_of_mem hc
  have hmem : (c, index) ∈ value.toList.zipIdx := by
    rw [List.mem_zipIdx_iff_getElem?, List.getElem?_eq_getElem hindex, heq]
  have hchar := h.1.2 (c, index) hmem
  dsimp only at hchar
  split at hchar
  · rw [beq_iff_eq.mp hchar]
    decide
  · split at hchar
    · rw [beq_iff_eq.mp hchar]
      decide
    · split at hchar
      · rw [beq_iff_eq.mp hchar]
        decide
      · split at hchar
        · rw [beq_iff_eq.mp hchar]
          decide
        · exact isBasic_of_isAsciiDigit hchar

/-! ## Readable data -/

def IsHostDecimal (text : String) : Prop := ∃ d : Decimal, Decimal.parse text = .ok d

def IsHostQuantity (text : String) : Prop :=
  ∃ d : Decimal, Decimal.parse text = .ok d ∧ Decimal.zero ≤ d

def IsReason (reason : String) : Prop :=
  validateBridgeText "IBKR response reason" reason = .ok () ∧
    reason.toList.all Json.isBasic = true

def BridgeEvent.IsReadable : BridgeEvent → Prop
  | .acknowledged clientOrderId brokerOrderId =>
    isCanonicalId clientOrderId = true ∧ isCanonicalId brokerOrderId = true
  | .execution executionId clientOrderId brokerOrderId quantity price fee
      executedAt =>
      isCanonicalId executionId = true ∧ isCanonicalId clientOrderId = true ∧
        isCanonicalId brokerOrderId = true ∧ IsHostDecimal quantity ∧
        IsHostDecimal price ∧ IsHostDecimal fee ∧
        isUtcTimestamp executedAt = true
  | .cancelled clientOrderId reason =>
    isCanonicalId clientOrderId = true ∧ IsReason reason
  | .cancelRejected clientOrderId reason =>
    isCanonicalId clientOrderId = true ∧ IsReason reason
  | .rejected clientOrderId reason =>
    isCanonicalId clientOrderId = true ∧ IsReason reason

structure OrderRow.IsReadable (row : OrderRow) : Prop where
  clientOrderId : isCanonicalId row.clientOrderId = true
  brokerOrderId : isCanonicalId row.brokerOrderId = true
  filledQuantity : IsHostQuantity row.filledQuantity

def IsReadablePosition (position : String × String) : Prop :=
  isCanonicalId position.1 = true ∧ IsHostDecimal position.2

structure BridgeSnapshot.IsReadable (snapshot : BridgeSnapshot) : Prop where
  orders : ∀ row ∈ snapshot.orders, row.IsReadable
  positions : ∀ position ∈ snapshot.positions, IsReadablePosition position
  cash : IsHostDecimal snapshot.cash

/-! ## Responses come through -/

theorem mapM_some {f : α → Option β} {g : α → β} {items : List α}
    (h : ∀ item ∈ items, f item = some (g item)) : items.mapM f = some (items.map g) := by
  induction items with
  | nil => rfl
  | cons item rest ih =>
    rw [forall_mem_cons] at h
    rw [List.mapM_cons, h.1, ih h.2]
    rfl

theorem mapM_ok {f : α → Result β} {items : List α}
    (h : ∀ item ∈ items, ∃ value, f item = .ok value) :
    ∃ values, items.mapM f = .ok values := by
  induction items with
  | nil => exact ⟨[], rfl⟩
  | cons item rest ih =>
    rw [forall_mem_cons] at h
    obtain ⟨value, hvalue⟩ := h.1
    obtain ⟨values, hvalues⟩ := ih h.2
    refine ⟨value :: values, ?_⟩
    rw [List.mapM_cons, hvalue, hvalues]
    rfl

theorem receiveResult_responseLine {result : Json}
    (hbasic : result.all Json.isBasic = true) (hnested : result.Nested 126)
    (hnull : result ≠ .null)
    (hsize : (responseLine requestId result).utf8ByteSize + 1 ≤ maxResponseBytes) :
    receiveResult maxResponseBytes requestId (responseLine requestId result)
      = .ok result := by
  have hall : (okResponse requestId result).all Json.isBasic = true := by
    rw [okResponse, Json.all_obj]
    simp only [List.all_cons, List.all_nil, Bool.and_true, hbasic, Json.all]
    decide
  have hdeep : (okResponse requestId result).Nested 127 := by
    apply Json.Nested.obj
    simp only [forall_mem_cons]
    exact ⟨.null, .bool true, .num 1, .num requestId, hnested,
      fun _ hmem => absurd hmem not_mem_nil⟩
  have hread := Json.read_print_python hall hdeep
  have hresponse : readResponse (okResponse requestId result)
      = some ⟨1, requestId, true, some result, none⟩ := by
    cases result with
    | null => contradiction
    | bool value => rfl
    | num value => rfl
    | str value => rfl
    | arr items => rfl
    | obj members => rfl
  unfold receiveResult
  rw [refuseIf_of_not (by omega)]
  unfold responseLine
  rw [hread, bind_some, hresponse]
  simp [refuseIf]

/-! ## Events -/

def BridgeEvent.wire : BridgeEvent → WireEvent
  | .acknowledged clientOrderId brokerOrderId =>
    ⟨"ACKNOWLEDGED", none, clientOrderId, some brokerOrderId, none, none,
      none, none, none⟩
  | .execution executionId clientOrderId brokerOrderId quantity price fee
      executedAt =>
      ⟨"EXECUTION", some executionId, clientOrderId, some brokerOrderId,
        some quantity, some price, some fee, some executedAt, none⟩
  | .cancelled clientOrderId reason =>
    ⟨"CANCELLED", none, clientOrderId, none, none, none, none, none, some reason⟩
  | .cancelRejected clientOrderId reason =>
    ⟨"CANCEL_REJECTED", none, clientOrderId, none, none, none, none, none, some reason⟩
  | .rejected clientOrderId reason =>
    ⟨"REJECTED", none, clientOrderId, none, none, none, none, none, some reason⟩

theorem readEvent_toJson (event : BridgeEvent) :
    readEvent event.toJson = some event.wire := by
  cases event <;> rfl

theorem bridgeDecimal_ok {name text : String} (h : IsHostDecimal text) :
    ∃ d, bridgeDecimal name text = .ok d := by
  obtain ⟨d, hparse⟩ := h
  exact ⟨d, by rw [bridgeDecimal, hparse]⟩

theorem requiredBridgeReason_ok {reason : String} (h : IsReason reason) :
    requiredBridgeReason (some reason) = .ok reason := by
  unfold requiredBridgeReason required
  simp only [bind_eq_ok]
  exact ⟨reason, rfl, (), h.1, rfl⟩

theorem normalizeBridgeEvent_ok (h : event.IsReadable) :
    ∃ normalized, normalizeBridgeEvent event.wire = .ok normalized := by
  cases event with
  | acknowledged clientOrderId brokerOrderId =>
    refine ⟨.acknowledged clientOrderId brokerOrderId, ?_⟩
    have hbroker : validateCanonicalId "IBKR event broker_order_id"
        brokerOrderId = .ok () := validateCanonicalId_eq_ok.mpr h.2
    simp [normalizeBridgeEvent, BridgeEvent.wire, required, h.1, hbroker, bind_eq_ok]
  | execution executionId clientOrderId brokerOrderId quantity price fee
      executedAt =>
      obtain ⟨hexecution, hclient, hbroker, hquantity, hprice, hfee, htime⟩ := h
      obtain ⟨quantityValue, hquantity⟩ :=
        @bridgeDecimal_ok "IBKR execution quantity" _ hquantity
      obtain ⟨priceValue, hprice⟩ :=
        @bridgeDecimal_ok "IBKR execution price" _ hprice
      obtain ⟨feeValue, hfee⟩ := @bridgeDecimal_ok "IBKR execution fee" _ hfee
      refine ⟨.execution (.mk executionId clientOrderId brokerOrderId
        quantityValue priceValue feeValue executedAt), ?_⟩
      simp [normalizeBridgeEvent, BridgeEvent.wire, required, hexecution,
        hclient, hbroker, htime, hquantity, hprice, hfee, bind_eq_ok]
  | cancelled clientOrderId reason =>
    refine ⟨.cancelled clientOrderId reason, ?_⟩
    simp [normalizeBridgeEvent, BridgeEvent.wire, h.1,
      requiredBridgeReason_ok h.2, bind_eq_ok]
  | cancelRejected clientOrderId reason =>
    refine ⟨.cancelRejected clientOrderId reason, ?_⟩
    simp [normalizeBridgeEvent, BridgeEvent.wire, h.1,
      requiredBridgeReason_ok h.2, bind_eq_ok]
  | rejected clientOrderId reason =>
    refine ⟨.rejected clientOrderId reason, ?_⟩
    simp [normalizeBridgeEvent, BridgeEvent.wire, h.1,
      requiredBridgeReason_ok h.2, bind_eq_ok]

def fieldNames : List String :=
  ["broker_order_id", "client_order_id", "event_type", "executed_at",
    "execution_id", "fee", "price", "quantity", "reason", "filled_quantity",
    "state", "instrument_id"]

theorem all_textsObject {members : List (String × String)}
    (hnames : ∀ member ∈ members, member.1 ∈ fieldNames)
    (htexts : ∀ member ∈ members, member.2.toList.all Json.isBasic = true) :
    (textsObject members).all Json.isBasic = true := by
  have hbasic : ∀ name ∈ fieldNames, name.toList.all Json.isBasic = true := by
    decide
  rw [textsObject, Json.all_obj, all_eq_true]
  intro member hmem
  obtain ⟨found, hfound, rfl⟩ := mem_map.mp hmem
  rw [and_eq_true, Json.all]
  exact ⟨hbasic found.1 (hnames found hfound), htexts found hfound⟩

theorem nested_textsObject (members : List (String × String)) (depth : Nat) :
    (textsObject members).Nested (depth + 2) := by
  apply Json.Nested.obj
  intro member hmem
  obtain ⟨found, _, rfl⟩ := mem_map.mp hmem
  exact .str _

theorem IsHostDecimal.isBasic (h : IsHostDecimal text) :
    text.toList.all Json.isBasic = true := by
  obtain ⟨d, hparse⟩ := h
  exact all_isBasic_of_parse hparse

theorem isBasic_eventJson (h : event.IsReadable) :
    event.toJson.all Json.isBasic = true := by
  have hid : ∀ {value : String}, isCanonicalId value = true →
      value.toList.all Json.isBasic = true := all_isBasic_of_isCanonicalId
  have hkind : ∀ kind ∈ ["ACKNOWLEDGED", "EXECUTION", "CANCELLED",
      "CANCEL_REJECTED", "REJECTED"],
      kind.toList.all Json.isBasic = true := by
    decide
  rw [forall_mem_cons, forall_mem_cons, forall_mem_cons,
    forall_mem_cons, List.forall_mem_singleton] at hkind
  obtain ⟨hack, hexec, hcancel, hcancelRejected, hrejected⟩ := hkind
  cases event with
  | acknowledged clientOrderId brokerOrderId =>
    apply all_textsObject (by simp [fieldNames])
    simp only [forall_mem_cons]
    exact ⟨hid h.2, hid h.1, hack, by simp⟩
  | execution executionId clientOrderId brokerOrderId quantity price fee
      executedAt =>
      obtain ⟨hexecution, hclient, hbroker, hquantity, hprice, hfee, hat⟩ := h
      apply all_textsObject (by simp [fieldNames])
      simp only [forall_mem_cons]
      exact ⟨hid hbroker, hid hclient, hexec,
        all_isBasic_of_isUtcTimestamp hat, hid hexecution, hfee.isBasic,
        hprice.isBasic, hquantity.isBasic, by simp⟩
  | cancelled clientOrderId reason =>
    apply all_textsObject (by simp [fieldNames])
    simp only [forall_mem_cons]
    exact ⟨hid h.1, hcancel, h.2.2, by simp⟩
  | cancelRejected clientOrderId reason =>
    apply all_textsObject (by simp [fieldNames])
    simp only [forall_mem_cons]
    exact ⟨hid h.1, hcancelRejected, h.2.2, by simp⟩
  | rejected clientOrderId reason =>
    apply all_textsObject (by simp [fieldNames])
    simp only [forall_mem_cons]
    exact ⟨hid h.1, hrejected, h.2.2, by simp⟩

theorem toJson_eq_textsObject (event : BridgeEvent) :
    ∃ members, event.toJson = textsObject members := by
  cases event <;> exact ⟨_, rfl⟩

theorem pollPaperEvents_pollLine
    (h : ∀ event ∈ events, event.toJson.all Json.isBasic = true)
    (hsize : (pollLine requestId events).utf8ByteSize + 1 ≤ maxResponseBytes) :
    pollPaperEvents maxResponseBytes requestId (pollLine requestId events)
      = (events.map BridgeEvent.wire).mapM normalizeBridgeEvent := by
  have hbasic : (Json.arr (events.map BridgeEvent.toJson)).all Json.isBasic
      = true := by
    rw [Json.all_arr, all_eq_true]
    intro item hitem
    obtain ⟨event, hevent, rfl⟩ := mem_map.mp hitem
    exact h event hevent
  have hnested : (Json.arr (events.map BridgeEvent.toJson)).Nested 126 := by
    apply Json.Nested.arr
    intro item hitem
    obtain ⟨event, _, rfl⟩ := mem_map.mp hitem
    obtain ⟨members, heq⟩ := toJson_eq_textsObject event
    rw [heq]
    exact nested_textsObject members 123
  have hresult := receiveResult_responseLine hbasic hnested (by simp) hsize
  have hread : readItems readEvent (.arr (events.map BridgeEvent.toJson))
      = some (events.map BridgeEvent.wire) := by
    rw [readItems, List.mapM_map]
    exact mapM_some fun event _ => readEvent_toJson event
  simp only [pollPaperEvents, pollLine, hresult, bind, Except.bind, hread]

theorem pollPaperEvents_ok (h : ∀ event ∈ events, event.IsReadable)
    (hsize : (pollLine requestId events).utf8ByteSize + 1 ≤ maxResponseBytes) :
    ∃ accepted, pollPaperEvents maxResponseBytes requestId
      (pollLine requestId events) = .ok accepted := by
  rw [pollPaperEvents_pollLine
    (fun event hevent => isBasic_eventJson (h event hevent)) hsize,
    List.mapM_map]
  exact mapM_ok fun event hevent => normalizeBridgeEvent_ok (h event hevent)

/-! ## Snapshots -/

theorem parseBridgeOrderState_ok (state : BridgeState) :
    ∃ parsed, parseBridgeOrderState state.text = .ok parsed := by
  cases state <;> exact ⟨_, rfl⟩

theorem normalizeOrder_ok (h : row.IsReadable) :
    ∃ order, normalizeOrder ⟨row.clientOrderId, row.brokerOrderId,
      row.state.text, row.filledQuantity⟩ = .ok order := by
  obtain ⟨filled, hparse, hfilled⟩ := h.filledQuantity
  obtain ⟨state, hstate⟩ := parseBridgeOrderState_ok row.state
  refine ⟨.mk row.clientOrderId row.brokerOrderId state filled, ?_⟩
  have hnonnegative : ¬filled < Decimal.zero := by
    rw [lt_def]
    exact not_lt.mpr (le_def.mp hfilled)
  have hdecimal : bridgeDecimal "IBKR snapshot filled quantity"
      row.filledQuantity = .ok filled := by
    rw [bridgeDecimal, hparse]
  unfold normalizeOrder
  simp only [bind_eq_ok, validateCanonicalId_eq_ok, refuseIf_eq_ok]
  exact ⟨(), h.clientOrderId, (), h.brokerOrderId, filled, hdecimal, (),
    hnonnegative, state, hstate, rfl⟩

theorem normalizePosition_ok (h : IsReadablePosition position) :
    ∃ normalized, normalizePosition position = .ok normalized := by
  obtain ⟨quantity, hquantity⟩ :=
    @bridgeDecimal_ok "IBKR snapshot position" _ h.2
  refine ⟨.mk position.1 quantity, ?_⟩
  unfold normalizePosition
  simp only [bind_eq_ok, validateCanonicalId_eq_ok]
  exact ⟨(), h.1, quantity, hquantity, rfl⟩

theorem IsHostQuantity.isHostDecimal (h : IsHostQuantity text) : IsHostDecimal text := by
  obtain ⟨d, hparse, _⟩ := h
  exact ⟨d, hparse⟩

theorem isBasic_rowJson (h : row.IsReadable) : row.toJson.all Json.isBasic = true := by
  have hstate : row.state.text.toList.all Json.isBasic = true := by
    cases row.state <;> decide
  apply all_textsObject
  · simp [fieldNames]
  · simp only [forall_mem_cons]
    exact ⟨all_isBasic_of_isCanonicalId h.brokerOrderId,
      all_isBasic_of_isCanonicalId h.clientOrderId,
      h.filledQuantity.isHostDecimal.isBasic, hstate, by simp⟩

theorem isBasic_positionJson (h : IsReadablePosition position) :
    (positionJson position).all Json.isBasic = true := by
  apply all_textsObject
  · simp [fieldNames]
  · simp only [forall_mem_cons]
    exact ⟨all_isBasic_of_isCanonicalId h.1, h.2.isBasic, by simp⟩

theorem paperAccountSnapshot_ok {snapshot : BridgeSnapshot} (h : snapshot.IsReadable)
    (hsize : (snapshotLine requestId snapshot).utf8ByteSize + 1
      ≤ maxResponseBytes) : ∃ accepted, paperAccountSnapshot maxResponseBytes requestId
      (snapshotLine requestId snapshot) = .ok accepted := by
  have hbasic : snapshot.toJson.all Json.isBasic = true := by
    have horders : (Json.arr (snapshot.orders.map OrderRow.toJson)).all
        Json.isBasic = true := by
      rw [Json.all_arr, all_eq_true]
      intro item hitem
      obtain ⟨row, hrow, rfl⟩ := mem_map.mp hitem
      exact isBasic_rowJson (h.orders row hrow)
    have hpositions : (Json.arr (snapshot.positions.map positionJson)).all
        Json.isBasic = true := by
      rw [Json.all_arr, all_eq_true]
      intro item hitem
      obtain ⟨position, hposition, rfl⟩ := mem_map.mp hitem
      exact isBasic_positionJson (h.positions position hposition)
    have hcash : Json.all Json.isBasic (.str snapshot.cash) = true := by
      rw [Json.all]
      exact h.cash.isBasic
    have hnames : ∀ name ∈ ["cash", "orders", "positions"],
        name.toList.all Json.isBasic = true := by
      decide
    rw [forall_mem_cons, forall_mem_cons,
      List.forall_mem_singleton] at hnames
    rw [BridgeSnapshot.toJson, Json.all_obj]
    simp only [List.all_cons, List.all_nil, horders, hpositions, hcash,
      hnames.1, hnames.2.1, hnames.2.2, Bool.and_self]
  have hnested : snapshot.toJson.Nested 126 := by
    apply Json.Nested.obj
    simp only [forall_mem_cons]
    refine ⟨.str _, ?_, ?_, by simp⟩
    · apply Json.Nested.arr
      intro item hitem
      obtain ⟨row, _, rfl⟩ := mem_map.mp hitem
      exact nested_textsObject _ 122
    · apply Json.Nested.arr
      intro item hitem
      obtain ⟨position, _, rfl⟩ := mem_map.mp hitem
      exact nested_textsObject _ 122
  have hresult := receiveResult_responseLine hbasic hnested (by simp [BridgeSnapshot.toJson]) hsize
  have horders : readItems readOrder
      (.arr (snapshot.orders.map OrderRow.toJson))
        = some (snapshot.orders.map fun row => ⟨row.clientOrderId,
            row.brokerOrderId, row.state.text, row.filledQuantity⟩) := by
    rw [readItems, List.mapM_map]
    exact mapM_some fun row _ => rfl
  have hpositions : readItems readPosition
      (.arr (snapshot.positions.map positionJson))
        = some (snapshot.positions.map id) := by
    rw [readItems, List.mapM_map]
    exact mapM_some fun position _ => rfl
  have hread : readSnapshot snapshot.toJson
      = some ⟨snapshot.orders.map fun row => ⟨row.clientOrderId,
            row.brokerOrderId, row.state.text, row.filledQuantity⟩,
          snapshot.positions.map id, snapshot.cash⟩ := by
    have hcash : requiredText [("cash", .str snapshot.cash),
        ("orders", .arr (snapshot.orders.map OrderRow.toJson)),
        ("positions", .arr (snapshot.positions.map positionJson))] "cash"
          = some snapshot.cash := rfl
    have hget : Payload.get [("cash", .str snapshot.cash),
        ("orders", .arr (snapshot.orders.map OrderRow.toJson)),
        ("positions", .arr (snapshot.positions.map positionJson))] "orders"
          = some (.arr (snapshot.orders.map OrderRow.toJson)) := rfl
    have hget' : Payload.get [("cash", .str snapshot.cash),
        ("orders", .arr (snapshot.orders.map OrderRow.toJson)),
        ("positions", .arr (snapshot.positions.map positionJson))] "positions"
          = some (.arr (snapshot.positions.map positionJson)) := rfl
    simp only [BridgeSnapshot.toJson, readSnapshot, hcash, hget, hget',
      bind_some, horders, hpositions]
    rfl
  have hok : ∃ orders, (snapshot.orders.map fun row =>
      (⟨row.clientOrderId, row.brokerOrderId, row.state.text,
        row.filledQuantity⟩ : WireOrder)).mapM normalizeOrder
          = .ok orders := by
    rw [List.mapM_map]
    exact mapM_ok fun row hrow => normalizeOrder_ok (h.orders row hrow)
  have hok' : ∃ positions, (snapshot.positions.map id).mapM normalizePosition
      = .ok positions := by
    rw [List.map_id]
    exact mapM_ok fun position hposition =>
      normalizePosition_ok (h.positions position hposition)
  obtain ⟨orders, horders⟩ := hok
  obtain ⟨positions, hpositions⟩ := hok'
  obtain ⟨cash, hcash⟩ := @bridgeDecimal_ok "IBKR snapshot cash" _ h.cash
  refine ⟨.mk orders positions cash, ?_⟩
  rw [paperAccountSnapshot, snapshotLine, bind_eq_ok]
  refine ⟨_, hresult, ?_⟩
  rw [hread]
  simp only [bind_eq_ok]
  exact ⟨orders, horders, positions, hpositions, cash, hcash, rfl⟩

end Follon.Ibkr
