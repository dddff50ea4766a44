import Follon.Foundation.KeyedRows
import Follon.Foundation.MapTotals
import Follon.Paper.RecordRuns
import Mathlib.Algebra.Order.BigOperators.Group.List

/-!
# Agreement with the broker

What it means for the books to agree with a broker snapshot, and that
reconciliation reports no issue exactly then.
-/

namespace Follon.Paper

open Foundation Domain ControlPlane Accounting

/-! ## Agreement -/

namespace BrokerAccountSnapshot

def rowsOf (snapshot : BrokerAccountSnapshot) (orderId : String) :
    List BrokerOrderSnapshot :=
  snapshot.orders.filter (·.clientOrderId == orderId)

def quantityOf (snapshot : BrokerAccountSnapshot) (instrumentId : String) : Decimal :=
  ((snapshot.positions.find? (·.instrumentId == instrumentId)).map
    (·.quantity)).getD Decimal.zero

def filledOf (snapshot : BrokerAccountSnapshot) (orderId : String) : Int :=
  ((snapshot.rowsOf orderId).map (·.filledQuantity.scaled)).sum

def FillsFit (snapshot : BrokerAccountSnapshot) : Prop :=
  ∀ orderId, snapshot.filledOf orderId ≤ i128Max

/-- An order of the service beside its rows in the snapshot. -/
structure Matches (snapshot : BrokerAccountSnapshot) (view : OrderView) :
    Prop where
  present : view.working = true → snapshot.rowsOf view.orderId ≠ []
  current : snapshot.rowsOf view.orderId ≠ [] → ∃ row ∈ snapshot.rowsOf view.orderId,
      view.brokerOrderId = some row.brokerOrderId ∧ view.state = row.state
  recognized : ∀ row ∈ snapshot.rowsOf view.orderId, row.brokerOrderId ∈ view.versions
  filled : snapshot.rowsOf view.orderId ≠ [] →
    view.filledQuantity.scaled = snapshot.filledOf view.orderId

end BrokerAccountSnapshot

structure ServiceRecord.Agrees (s : ServiceRecord)
    (snapshot : BrokerAccountSnapshot) : Prop where
  orders : ∀ (orderId : String) (order : PaperOrder),
    s.orders[orderId]? = some order → snapshot.Matches (plainView (orderId, order))
  comboOrders : ∀ (orderId : String) (order : PaperComboOrder),
    s.comboOrders[orderId]? = some order → snapshot.Matches (comboView (orderId, order))
  known : ∀ row ∈ snapshot.orders,
    row.clientOrderId ∈ s.orders ∨ row.clientOrderId ∈ s.comboOrders
  evidence : ∀ (orderId : String) (order : PaperComboOrder),
    s.comboOrders[orderId]? = some order → order.evidenceError = none
  positions : ∀ instrumentId,
    s.heldQuantity instrumentId = snapshot.quantityOf instrumentId
  cash : s.cash = snapshot.cash

/-! ## Validated snapshots -/

variable {u : Unit} {view : OrderView} {rows : List BrokerOrderSnapshot}

theorem validateSnapshotOrders_eq_ok {versions : List (String × String)}
    {brokerIds : List String} {orders : List BrokerOrderSnapshot}
    (h : validateSnapshotOrders versions brokerIds orders = .ok u) :
    (orders.map (·.brokerOrderId)).Nodup ∧
      (∀ order ∈ orders, order.brokerOrderId ∉ brokerIds) ∧
        ∀ order ∈ orders, 0 ≤ order.filledQuantity.scaled := by
  induction orders generalizing versions brokerIds with
  | nil => simp
  | cons order orders ih =>
    simp only [validateSnapshotOrders, bind_eq_ok, refuseIf_eq_ok,
      exists_const, not_or, lt_def, scaled_zero,
      not_lt] at h
    obtain ⟨_, -, _, -, ⟨hfilled, -, hnew⟩, hrest⟩ := h
    obtain ⟨hnodup, hfree, hpositive⟩ := ih hrest
    refine ⟨?_, ?_, ?_⟩
    · rw [map_cons, nodup_cons]
      refine ⟨?_, hnodup⟩
      intro hmem
      obtain ⟨other, hother, hsame⟩ := mem_map.mp hmem
      exact hfree other hother (hsame ▸ mem_cons_self)
    · rw [forall_mem_cons]
      exact ⟨hnew, fun other hother hmem =>
        hfree other hother (mem_cons_of_mem _ hmem)⟩
    · rw [forall_mem_cons]
      exact ⟨hfilled, hpositive⟩

theorem validateSnapshotPositions_eq_ok {instruments : List String}
    {positions : List BrokerPositionSnapshot}
    (h : validateSnapshotPositions instruments positions = .ok u) :
    (positions.map (·.instrumentId)).Nodup ∧
      ∀ position ∈ positions, position.instrumentId ∉ instruments := by
  induction positions generalizing instruments with
  | nil => simp
  | cons position positions ih =>
    simp only [validateSnapshotPositions, bind_eq_ok, refuseIf_eq_ok,
      exists_const] at h
    obtain ⟨_, -, hnew, hrest⟩ := h
    obtain ⟨hnodup, hfree⟩ := ih hrest
    refine ⟨?_, ?_⟩
    · rw [map_cons, nodup_cons]
      refine ⟨?_, hnodup⟩
      intro hmem
      obtain ⟨other, hother, hsame⟩ := mem_map.mp hmem
      exact hfree other hother (hsame ▸ mem_cons_self)
    · rw [forall_mem_cons]
      exact ⟨hnew, fun other hother hmem =>
        hfree other hother (mem_cons_of_mem _ hmem)⟩

/-! ## Issues of one order -/

theorem issueIf_eq_nil {condition : Prop} [Decidable condition]
    {category subject detail : String} :
    issueIf condition category subject detail = [] ↔ ¬condition := by
  unfold issueIf
  split <;> simp_all

theorem stateIssues_eq_nil {broker : Option BrokerOrderSnapshot}
    : stateIssues view broker = []
      ↔ ∀ row, broker = some row → view.state = row.state := by
  cases broker with
  | none => simp [stateIssues]
  | some row =>
    simp only [stateIssues, issueIf_eq_nil, not_not, Option.some.injEq, forall_eq']

theorem foldlM_addFilled {rows : List BrokerOrderSnapshot} {total : Decimal}
    (hfilled : ∀ row ∈ rows, 0 ≤ row.filledQuantity.scaled)
    (hfit : total.scaled + (rows.map (·.filledQuantity.scaled)).sum
      ≤ i128Max) : ∃ filled, rows.foldlM addFilled total = .ok filled ∧
      filled.scaled
        = total.scaled + (rows.map (·.filledQuantity.scaled)).sum := by
  induction rows generalizing total with
  | nil => exact ⟨total, rfl, by simp⟩
  | cons row rows ih =>
    rw [forall_mem_cons] at hfilled
    rw [map_cons, sum_cons] at hfit ⊢
    have hrest : 0 ≤ (rows.map (·.filledQuantity.scaled)).sum := by
      apply List.sum_nonneg
      rw [List.forall_mem_map]
      exact hfilled.2
    have hmin := total.min_le
    let next : Decimal := ⟨total.scaled + row.filledQuantity.scaled, by omega, by omega⟩
    have hnext : addFilled total row = .ok next := checkedAdd_eq_ok.mpr rfl
    obtain ⟨filled, hfold, hsum⟩ := @ih next hfilled.2 (by
      simp only [next]
      omega)
    refine ⟨filled, ?_, ?_⟩
    · rw [foldlM_cons, hnext]
      exact hfold
    · rw [hsum]
      simp only [next]
      omega

theorem currentRow_eq_some {row : BrokerOrderSnapshot}
    (hdistinct : (rows.map (·.brokerOrderId)).Nodup) : currentRow view rows = some row
      ↔ row ∈ rows ∧ view.brokerOrderId = some row.brokerOrderId := by
  unfold currentRow
  cases view.brokerOrderId with
  | none => simp
  | some current =>
    rw [bind_some, KeyedRows.find?_eq_some hdistinct]
    simp [eq_comm]

theorem rowIssues_eq_nil {filled : Decimal} {a b c : String}
    (hdistinct : (rows.map (·.brokerOrderId)).Nodup) :
    issueIf (currentRow view rows = none) "BROKER_ORDER_ID_MISMATCH"
          view.orderId a ++
        issueIf (rows.any (fun candidate =>
            decide (candidate.brokerOrderId ∉ view.versions)) = true)
          "BROKER_ORDER_VERSION_MISMATCH" view.orderId b ++
        issueIf (view.filledQuantity ≠ filled)
          "FILLED_QUANTITY_MISMATCH" view.orderId c ++
        stateIssues view (currentRow view rows) = []
      ↔ (∃ row ∈ rows, view.brokerOrderId = some row.brokerOrderId ∧
          view.state = row.state) ∧
        (∀ row ∈ rows, row.brokerOrderId ∈ view.versions) ∧
          view.filledQuantity = filled := by
  simp only [List.append_eq_nil_iff, issueIf_eq_nil, stateIssues_eq_nil,
    List.any_eq_true, decide_eq_true_eq, not_exists, not_and, not_not,
    ← ne_eq, Option.ne_none_iff_exists', currentRow_eq_some hdistinct]
  constructor
  · rintro ⟨⟨⟨⟨row, hmem, hid⟩, hversions⟩, hfilled⟩, hstate⟩
    exact ⟨⟨row, hmem, hid, hstate row ⟨hmem, hid⟩⟩, hversions, hfilled⟩
  · rintro ⟨⟨row, hmem, hid, hstate⟩, hversions, hfilled⟩
    refine ⟨⟨⟨⟨row, hmem, hid⟩, hversions⟩, hfilled⟩, ?_⟩
    rintro other ⟨hother, hsame⟩
    have hrow : other = row := by
      apply List.inj_on_of_nodup_map hdistinct hother hmem
      rw [hid] at hsame
      exact (Option.some.inj hsame).symm
    rw [hrow]
    exact hstate

namespace BrokerAccountSnapshot

variable {snapshot : BrokerAccountSnapshot}

theorem orderIssues_eq_nil (hvalid : validateBrokerSnapshot snapshot = .ok ())
    (hfit : snapshot.FillsFit) (view : OrderView) :
    ∃ issues, orderIssues snapshot.orders view = .ok issues ∧
      (issues = [] ↔ snapshot.Matches view) := by
  simp only [validateBrokerSnapshot, bind_eq_ok] at hvalid
  obtain ⟨_, horders, -⟩ := hvalid
  obtain ⟨hdistinct, -, hfilled⟩ := validateSnapshotOrders_eq_ok horders
  unfold orderIssues
  split
  · next hrows =>
      have hnone : snapshot.rowsOf view.orderId = [] := hrows
      refine ⟨_, rfl, ?_⟩
      rw [issueIf_eq_nil]
      constructor
      · intro hidle
        constructor <;> simp_all
      · exact fun hmatches hworking => hmatches.present hworking hnone
  · next hrows =>
      have hsome : snapshot.rowsOf view.orderId ≠ [] := hrows
      have hsub : (snapshot.rowsOf view.orderId).Sublist snapshot.orders :=
        List.filter_sublist
      obtain ⟨filled, hfold, hsum⟩ := @foldlM_addFilled
        (snapshot.rowsOf view.orderId) Decimal.zero
        (fun row hrow => hfilled row (hsub.subset hrow))
        (by simpa [BrokerAccountSnapshot.filledOf] using hfit view.orderId)
      have hfiltered : snapshot.orders.filter (·.clientOrderId == view.orderId)
          = snapshot.rowsOf view.orderId := rfl
      rw [hfiltered, hfold]
      refine ⟨_, rfl, ?_⟩
      rw [rowIssues_eq_nil (hdistinct.sublist (hsub.map _))]
      have hsame : view.filledQuantity = filled
          ↔ view.filledQuantity.scaled = snapshot.filledOf view.orderId := by
        rw [← scaled_inj, hsum, scaled_zero, zero_add]
        rfl
      rw [hsame]
      constructor
      · rintro ⟨hcurrent, hversions, htotal⟩
        exact ⟨fun _ => hsome, fun _ => hcurrent, hversions, fun _ => htotal⟩
      · intro hmatches
        exact ⟨hmatches.current hsome, hmatches.recognized, hmatches.filled hsome⟩

theorem brokerPositions_quantityOf
    (hvalid : validateBrokerSnapshot snapshot = .ok ()) (instrumentId : String) :
    (brokerPositions snapshot)[instrumentId]?.getD Decimal.zero
      = snapshot.quantityOf instrumentId := by
  simp only [validateBrokerSnapshot, bind_eq_ok] at hvalid
  obtain ⟨_, -, hpositions⟩ := hvalid
  obtain ⟨hdistinct, -⟩ := validateSnapshotPositions_eq_ok hpositions
  have hmap : brokerPositions snapshot
      = KeyedRows.toMap (·.instrumentId) (·.quantity) snapshot.positions :=
    rfl
  rw [hmap, KeyedRows.toMap_getElem? hdistinct]
  rfl

end BrokerAccountSnapshot

/-! ## All issues -/

theorem collect_flatten_eq_nil {α : Type} {check : α → Result (List RawIssue)}
    {P : α → Prop} {items : List α} (hcheck : ∀ a ∈ items,
      ∃ issues, check a = .ok issues ∧ (issues = [] ↔ P a)) :
    ∃ issues, collect check items = .ok issues ∧
      (issues.flatten = [] ↔ ∀ a ∈ items, P a) := by
  induction items with
  | nil => exact ⟨[], rfl, by simp⟩
  | cons a items ih =>
    rw [forall_mem_cons] at hcheck
    obtain ⟨first, hfirst, hempty⟩ := hcheck.1
    obtain ⟨rest, hrest, hall⟩ := ih hcheck.2
    refine ⟨first :: rest, ?_, ?_⟩
    · simp only [collect, hfirst, hrest]
      rfl
    · rw [List.flatten_cons, List.append_eq_nil_iff, hempty, hall, forall_mem_cons]

namespace ServiceRecord

variable {s : ServiceRecord} {snapshot : BrokerAccountSnapshot}

theorem forall_orderViews {P : OrderView → Prop} : (∀ view ∈ s.orderViews, P view)
      ↔ (∀ (orderId : String) (order : PaperOrder),
          s.orders[orderId]? = some order → P (plainView (orderId, order))) ∧
        ∀ (orderId : String) (order : PaperComboOrder),
          s.comboOrders[orderId]? = some order →
            P (comboView (orderId, order)) := by
  simp only [orderViews, List.forall_mem_append, List.forall_mem_map,
    Prod.forall, mem_toList_iff_getElem?_eq_some]

theorem unexpectedIssues_eq_nil {row : BrokerOrderSnapshot} : s.unexpectedIssues row = []
      ↔ row.clientOrderId ∈ s.orders ∨ row.clientOrderId ∈ s.comboOrders := by
  rw [unexpectedIssues, issueIf_eq_nil, not_and_or, not_not, not_not]

theorem anomalyIssues_eq_nil {entry : String × PaperComboOrder} :
    anomalyIssues entry = [] ↔ entry.2.evidenceError = none := by
  unfold anomalyIssues
  split <;> simp_all

theorem mem_asSet {values : List String} {value : String} :
    value ∈ Configuration.asSet values ↔ value ∈ values := by
  have hfold : ∀ (set : OrderedSet String),
      value ∈ values.foldl (fun set value => set.insert value) set
        ↔ value ∈ set ∨ value ∈ values := by
    induction values with
    | nil => simp
    | cons first values ih =>
      intro set
      rw [List.foldl_cons, ih]
      rw [mem_insert, Std.LawfulEqCmp.compare_eq_iff_eq,
        mem_cons, or_comm (a := first = value), or_assoc,
        eq_comm (a := first)]
  rw [Configuration.asSet, hfold]
  simp

theorem positionIssues_eq_nil {positions : OrderedMap String Decimal} :
    (∀ instrumentId ∈ s.comparedInstruments positions,
        s.positionIssues positions instrumentId = [])
      ↔ ∀ instrumentId, s.heldQuantity instrumentId
          = positions[instrumentId]?.getD Decimal.zero := by
  simp only [comparedInstruments, Std.ExtTreeSet.mem_toList, mem_asSet, mem_append,
    Std.ExtTreeMap.mem_keys, positionIssues, issueIf_eq_nil, not_not]
  refine ⟨?_, fun hsame instrumentId _ => hsame instrumentId⟩
  intro hcompared instrumentId
  by_cases hmem : instrumentId ∈ s.portfolios ∨ instrumentId ∈ positions
  · exact hcompared instrumentId hmem
  · rw [not_or] at hmem
    simp only [Books.heldQuantity, Std.ExtTreeMap.getElem?_eq_none hmem.1,
      Std.ExtTreeMap.getElem?_eq_none hmem.2, Option.getD_none]

theorem rawIssues_eq_nil (hvalid : validateBrokerSnapshot snapshot = .ok ())
    (hfit : snapshot.FillsFit) : ∃ raws, s.rawIssues snapshot = .ok raws ∧
      (raws = [] ↔ s.Agrees snapshot) := by
  obtain ⟨issues, hcollect, horders⟩ := collect_flatten_eq_nil
    fun view (_ : view ∈ s.orderViews) =>
      BrokerAccountSnapshot.orderIssues_eq_nil hvalid hfit view
  rw [forall_orderViews] at horders
  refine ⟨_, by rw [rawIssues, hcollect]; rfl, ?_⟩
  simp only [List.append_eq_nil_iff, horders, positionIssues_eq_nil,
    BrokerAccountSnapshot.brokerPositions_quantityOf hvalid, cashIssues, issueIf_eq_nil,
    not_not, List.flatMap_eq_nil_iff, unexpectedIssues_eq_nil, anomalyIssues_eq_nil,
    Prod.forall, mem_toList_iff_getElem?_eq_some]
  constructor
  · rintro ⟨⟨⟨⟨⟨hplain, hcombo⟩, hknown⟩, hevidence⟩, hpositions⟩, hcash⟩
    exact ⟨hplain, hcombo, hknown, hevidence, hpositions, hcash⟩
  · intro h
    exact ⟨⟨⟨⟨⟨h.orders, h.comboOrders⟩, h.known⟩, h.evidence⟩, h.positions⟩, h.cash⟩

end ServiceRecord

theorem openIncidents_eq_nil {number index : Nat}
    {incidents : OrderedMap String ReconciliationIncident} {raws : List RawIssue} :
    (openIncidents number index incidents raws).1 = [] ↔ raws = [] := by
  cases raws with
  | nil => simp [openIncidents]
  | cons raw raws => simp [openIncidents]

/-! ## Reconciliation -/

namespace PaperTradingService

variable {B : Type} [PaperBrokerAdapter B] [ContentHash]
  {s : PaperTradingService B} {snapshot : BrokerAccountSnapshot}

omit [PaperBrokerAdapter B] in
theorem recordComparison_reports {reconciledAt : String}
    {raws : List RawIssue} (hraws : s.rawIssues snapshot = .ok raws) :
    ∃ report : ReconciliationReport, (report.issues = [] ↔ raws = []) ∧
        ((recordComparison reconciledAt snapshot).final s).latestReconciliation
          = some report ∧
        (((recordComparison reconciledAt snapshot).run s).1 = .ok report ∨
          ((recordComparison reconciledAt snapshot).run s).1
            = .error FilePaperJournal.writeFailure) := by
  let opened := openIncidents s.nextReconciliation 0 s.incidents raws
  let report : ReconciliationReport :=
    ⟨Configuration.reconciliationIdFor s.nextReconciliation, reconciledAt, opened.1⟩
  let recorded := edit (ServiceRecord.recordReport report opened.2)
    (edit ServiceRecord.countReconciliation s)
  have hrun : (recordComparison reconciledAt snapshot).run s
      = (persist >>= fun _ => pure report).run recorded := by
    unfold recordComparison
    rw [run_read_bind, run_update_bind, hraws, run_lift_bind_ok]
    rfl
  have hlatest : recorded.latestReconciliation = some report := rfl
  refine ⟨report, openIncidents_eq_nil, ?_⟩
  rw [Fallible.final, hrun]
  rcases persist_cases recorded with
    ⟨-, hpersist⟩ | ⟨journal, -, ⟨-, hpersist⟩ | ⟨-, hpersist⟩⟩
  · rw [run_bind_ok hpersist]
    exact ⟨hlatest, .inl rfl⟩
  · rw [run_bind_ok hpersist]
    exact ⟨hlatest, .inl rfl⟩
  · rw [run_bind_error hpersist]
    exact ⟨hlatest, .inr rfl⟩

end PaperTradingService

namespace Session

attribute [local instance] contentHash

def brokerView : BrokerAccountSnapshot where
  orders :=
    [⟨"order-intent-1", "ibkr-paper-order-00000001", .filled, amount 1000000000⟩]
  positions := [⟨"aapl", amount 1000000000⟩]
  cash := amount 99900000000000

theorem brokerView_fillsFit : brokerView.FillsFit := by
  intro orderId
  have hrows : brokerView.rowsOf orderId = brokerView.orders ∨
      brokerView.rowsOf orderId = [] := by
    by_cases hid : orderId = "order-intent-1"
    · left
      rw [hid]
      decide
    · right
      simp [BrokerAccountSnapshot.rowsOf, brokerView, Ne.symm hid]
  rcases hrows with hrows | hrows <;>
    rw [BrokerAccountSnapshot.filledOf, hrows] <;> decide

end Session

end Follon.Paper
