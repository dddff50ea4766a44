import Follon.Paper.OrderSteps

/-!
# Lifecycle states and fills of plain orders

Three of the states say how much of an order is filled.  `FILLED`,
`PARTIALLY_FILLED` and the closed states always tell the truth; an order is
`ACKNOWLEDGED` with fills exactly after an event that returns it there.
-/

namespace Follon.Paper

open Foundation Domain ControlPlane

/-! ## The invariant -/

def isUnsent : OrderState → Bool
  | .created | .pendingRisk | .riskRejected | .approved | .pendingSubmit
  | .submitted => true
  | _ => false

namespace PaperOrder

def wanted (order : PaperOrder) : Int := order.oms.intent.quantity.scaled

def held (order : PaperOrder) : Int := order.filledQuantity.scaled

/-- What the state says of the fills in every reachable state. -/
structure Tracks (order : PaperOrder) : Prop where
  positive : 0 < order.wanted
  nonneg : 0 ≤ order.held
  fits : order.held ≤ order.wanted
  full : order.oms.state = .filled ↔ order.held = order.wanted
  part : order.oms.state = .partiallyFilled → 0 < order.held
  unsent : isUnsent order.oms.state = true → order.held = 0
  returns : ∀ state ∈ order.replaceReturnState, isWorkingState state = true
  returnsPart : order.replaceReturnState = some .partiallyFilled → 0 < order.held

def Unfilled (order : PaperOrder) : Prop :=
  order.oms.state = .acknowledged → order.held = 0

/-- An event that returns an order with fills to `ACKNOWLEDGED`. -/
def Regresses (order : PaperOrder) : BrokerEvent → Prop
  | .acknowledged _ brokerOrderId =>
    isCanonicalId brokerOrderId = true ∧ order.namesOtherVersion brokerOrderId = false ∧
        order.oms.state = .unknown ∧ order.held ≠ 0
  | .replaced _ previous brokerOrderId =>
    isCanonicalId brokerOrderId = true ∧ order.brokerOrderId = some previous ∧
        awaitsAnswer .pendingReplace order.oms.state = true ∧
          order.replaceReturnState = some .acknowledged ∧ order.held ≠ 0
  | .replaceRejected _ reason =>
    isBrokerReason reason = true ∧ awaitsAnswer .pendingReplace order.oms.state = true ∧
        order.replaceReturnState = some .acknowledged ∧ order.held ≠ 0
  | _ => False

namespace Tracks

variable {order : PaperOrder}

theorem moves (h : order.Tracks) (hopen : order.oms.state ≠ .filled)
    (next : OrderState) (hnext : next ≠ .filled)
    (hpart : next = .partiallyFilled → 0 < order.held)
    (hsent : isUnsent next = false) : (order.inState next).Tracks := by
  have hshort : order.held ≠ order.wanted := fun hdone =>
    hopen (h.full.mpr hdone)
  refine ⟨h.positive, h.nonneg, h.fits, ?_, hpart, ?_, h.returns, h.returnsPart⟩
  · exact ⟨fun hfilled => absurd hfilled hnext,
      fun hdone => absurd hdone hshort⟩
  · rw [inState_state, hsent]
    exact fun hfalse => nomatch hfalse

theorem noteVersion (h : order.Tracks) (brokerOrderId : String) :
    (order.noteVersion brokerOrderId).Tracks :=
  ⟨h.positive, h.nonneg, h.fits, h.full, h.part, h.unsent, h.returns, h.returnsPart⟩

theorem workingState_part (h : order.Tracks)
    (hpart : order.workingState = .partiallyFilled) : 0 < order.held := by
  have hdone := h.nonneg
  unfold PaperOrder.workingState at hpart
  split at hpart
  · contradiction
  · next hfilled =>
      have hne : order.held ≠ 0 := fun hzero => hfilled (Decimal.ext hzero)
      omega

end Tracks

theorem isWorking_workingState (order : PaperOrder) :
    isWorkingState order.workingState = true := by
  unfold workingState
  split <;> rfl

theorem unfilled_workingState {order : PaperOrder}
    (h : order.workingState = .acknowledged) : order.held = 0 := by
  unfold workingState at h
  split at h
  · next hzero => rw [held, hzero, scaled_zero]
  · contradiction

variable {state : OrderState}

theorem of_isWorkingState (h : isWorkingState state = true) :
    state = .acknowledged ∨ state = .partiallyFilled := by
  revert h
  cases state <;> decide

theorem of_awaitsAnswer {pending : OrderState} (h : awaitsAnswer pending state = true) :
    state = pending ∨ state = .unknown := by
  simpa [awaitsAnswer] using h

/-! ## Changes -/

namespace Tracks

variable {order order' : PaperOrder}

theorem orderMove (h : order.Tracks) (hmove : OrderMove order order') :
    order'.Tracks ∧ order'.Unfilled := by
  have hfresh : order.Fresh → order.held = 0 := by
    intro hnew
    rw [held, hnew.filled, scaled_zero]
  cases hmove with
  | accepted hstate hnew hid =>
    have hmoved := h.moves (by rw [hstate]; decide) .acknowledged (by decide)
      nofun rfl
    exact ⟨⟨hmoved.positive, hmoved.nonneg, hmoved.fits, hmoved.full,
      hmoved.part, hmoved.unsent, hmoved.returns, hmoved.returnsPart⟩,
      fun _ => hfresh hnew⟩
  | rejected hstate hnew =>
    exact ⟨h.moves (by rw [hstate]; decide) .rejected (by decide) nofun rfl,
      nofun⟩
  | lost hstate =>
    have hopen : order.oms.state ≠ .filled := by
      intro hfilled
      rw [hfilled] at hstate
      contradiction
    exact ⟨h.moves hopen .unknown (by decide) nofun rfl, nofun⟩

theorem replacing (h : order.Tracks)
    (hstate : isWorkingState order.oms.state = true) : order.replacing.Tracks := by
  have hopen : order.oms.state ≠ .filled := by
    intro hfilled
    rw [hfilled] at hstate
    contradiction
  have hmoved := h.moves hopen .pendingReplace (by decide) nofun rfl
  refine ⟨hmoved.positive, hmoved.nonneg, hmoved.fits, hmoved.full, hmoved.part,
    hmoved.unsent, ?_, ?_⟩
  · rintro state ⟨⟩
    exact hstate
  · intro hreturn
    exact h.part (Option.some.inj hreturn)

theorem answered (h : order.Tracks) (hopen : order.oms.state ≠ .filled) :
    order.answered.Tracks := by
  have hworking : isWorkingState order.returnedState = true := by
    unfold returnedState
    cases hreturn : order.replaceReturnState with
    | none => exact isWorking_workingState order
    | some state => exact h.returns state hreturn
  have hpart : order.returnedState = .partiallyFilled → 0 < order.held := by
    unfold returnedState
    cases hreturn : order.replaceReturnState with
    | none => exact h.workingState_part
    | some state =>
      rintro rfl
      exact h.returnsPart hreturn
  have hmoved : (order.inState order.returnedState).Tracks := by
    rcases of_isWorkingState hworking with hstate | hstate
    · exact h.moves hopen _ (by rw [hstate]; decide) hpart
        (by rw [hstate]; rfl)
    · exact h.moves hopen _ (by rw [hstate]; decide) hpart
        (by rw [hstate]; rfl)
  exact ⟨hmoved.positive, hmoved.nonneg, hmoved.fits, hmoved.full, hmoved.part,
    hmoved.unsent, fun _ hnone => (nomatch hnone), fun hnone => nomatch hnone⟩

/-- An execution brings the order to the state its new total stands for. -/
theorem executed {execution : BrokerExecution} (h : order.Tracks)
    (hvalid : ValidExecution execution) (hexecuted : order.Executed execution order') :
    order'.Tracks ∧ order'.Unfilled := by
  obtain ⟨-, total, state, htotal, hfits, hstate, rfl⟩ := hexecuted
  rw [checkedAdd_eq_ok] at htotal
  rw [le_def] at hfits
  have hquantity := hvalid.quantity
  have hprior : 0 ≤ order.filledQuantity.scaled := h.nonneg
  have hopen : state ≠ .filled := by
    rintro rfl
    have hfilled : order.oms.state = .filled := by
      revert hstate
      cases order.oms.state <;> decide
    have hfull : order.filledQuantity.scaled
        = order.oms.intent.quantity.scaled := h.full.mp hfilled
    omega
  have hsent : isUnsent state = false := by
    revert hstate
    cases order.oms.state <;>
      simp [reopenedState, isUnfilledTerminal, confirmedState] <;>
      rintro rfl <;> rfl
  have hcounted : (countedState total order.oms.intent.quantity state
        = .filled ↔ total.scaled = order.oms.intent.quantity.scaled) ∧
      countedState total order.oms.intent.quantity state ≠ .acknowledged ∧
        isUnsent (countedState total order.oms.intent.quantity state)
          = false := by
    unfold countedState
    split
    · next hfull => simp [hfull, isUnsent]
    · next hshort =>
        have hne : total.scaled ≠ order.oms.intent.quantity.scaled :=
          fun hsame => hshort (Decimal.ext hsame)
        split
        · simp [hne, isUnsent]
        · next hother => simp [hne, hother, hsent, hopen]
  refine ⟨⟨h.positive, ?_, hfits, hcounted.1, fun _ => ?_, ?_, h.returns,
    fun _ => ?_⟩, fun hacknowledged => absurd hacknowledged hcounted.2.1⟩
  · change 0 ≤ total.scaled
    omega
  · change 0 < total.scaled
    omega
  · intro hunsent
    rw [inState_state, hcounted.2.2] at hunsent
    contradiction
  · change 0 < total.scaled
    omega

theorem finished (h : order.Tracks) {terminal state : OrderState}
    (hterminal : isUnfilledTerminal terminal = true)
    (hstate : finishedState terminal order.oms.state = some state) :
    (order.inState state).Tracks ∧ (order.inState state).Unfilled := by
  have hunsent : isUnsent terminal = false ∧ terminal ≠ .filled ∧
      terminal ≠ .partiallyFilled ∧ terminal ≠ .acknowledged := by
    revert hterminal
    cases terminal <;> decide
  cases hclosed : isClosedState order.oms.state with
  | true =>
    have hsame : state = order.oms.state ∧
        order.oms.state ≠ .acknowledged := by
      revert hstate hclosed
      cases order.oms.state <;> simp [finishedState, isClosedState] <;>
        exact Eq.symm
    rw [hsame.1]
    exact ⟨h, fun hacknowledged => absurd hacknowledged hsame.2⟩
  | false =>
    have hsame : state = terminal ∧ order.oms.state ≠ .filled := by
      revert hstate hclosed
      cases order.oms.state <;> simp [finishedState, isClosedState] <;>
        exact Eq.symm
    rw [hsame.1]
    exact ⟨h.moves hsame.2 terminal hunsent.2.1
      (fun hpart => absurd hpart hunsent.2.2.1) hunsent.1,
      fun hacknowledged => absurd hacknowledged hunsent.2.2.2⟩

theorem acknowledged (h : order.Tracks) {brokerOrderId : String}
    (hid : isCanonicalId brokerOrderId = true)
    (hrun : (applyAcknowledged brokerOrderId).run order = (.ok (), order')) :
    order'.Tracks ∧ (order.Unfilled → ¬order.Regresses (.acknowledged "" brokerOrderId) →
        order'.Unfilled) := by
  obtain ⟨-, ⟨-, rfl⟩ | ⟨hversion, ⟨-, rfl⟩ | ⟨-, state, hstate, rfl⟩⟩⟩ :=
    applyAcknowledged_eq_ok hrun
  · exact ⟨h, fun hunfilled _ => hunfilled⟩
  · exact ⟨h.noteVersion _, fun hunfilled _ => hunfilled⟩
  · have hnoted := h.noteVersion brokerOrderId
    by_cases hsame : state = order.oms.state
    · rw [hsame]
      exact ⟨hnoted, fun hunfilled _ => hunfilled⟩
    · have hmoved : state = .acknowledged ∧ order.oms.state ≠ .filled ∧
          (isUnsent order.oms.state = true ∨
            order.oms.state = .unknown) := by
        revert hstate hsame
        cases order.oms.state <;> simp [confirmedState, isUnsent] <;>
          rintro rfl <;> simp
      obtain ⟨rfl, hopen, hfrom⟩ := hmoved
      refine ⟨hnoted.moves hopen .acknowledged (by decide) (by simp) rfl, ?_⟩
      intro _ hregular _
      rcases hfrom with hunsent | hunknown
      · exact h.unsent hunsent
      · by_contra hheld
        exact hregular ⟨hid, hversion, hunknown, hheld⟩

theorem cancelRejected (h : order.Tracks)
    (hrun : applyCancelRejected.run order = (.ok (), order')) :
    order'.Tracks ∧ (order.Unfilled → order'.Unfilled) := by
  rcases applyCancelRejected_eq_ok hrun with ⟨-, rfl⟩ | ⟨hawaits, rfl⟩
  · exact ⟨h, id⟩
  · have hopen : order.oms.state ≠ .filled := by
      rcases of_awaitsAnswer hawaits with hstate | hstate <;> rw [hstate] <;>
        decide
    have hworking := of_isWorkingState (isWorking_workingState order)
    refine ⟨h.moves hopen _ ?_ h.workingState_part ?_,
      fun _ => unfilled_workingState⟩
    · rcases hworking with hstate | hstate <;> rw [hstate] <;> decide
    · rcases hworking with hstate | hstate <;> rw [hstate] <;> rfl

theorem unfilled_answered (h : ¬(order.replaceReturnState
      = some .acknowledged ∧ order.held ≠ 0)) : order.answered.Unfilled := by
  intro hstate
  change order.returnedState = .acknowledged at hstate
  unfold returnedState at hstate
  change order.held = 0
  cases hreturn : order.replaceReturnState with
  | none =>
    rw [hreturn, Option.getD_none] at hstate
    exact unfilled_workingState hstate
  | some state =>
    rw [hreturn, getD_some] at hstate
    rw [hreturn, hstate] at h
    by_contra hheld
    exact h ⟨rfl, hheld⟩

theorem handled (h : order.Tracks) {event : BrokerEvent} {x : OrderM Unit}
    (hhandler : OrderHandler event x) (hrun : x.run order = (.ok (), order')) :
    order'.Tracks ∧
      (order.Unfilled → ¬order.Regresses event → order'.Unfilled) := by
  cases hhandler with
  | acknowledged hid => exact h.acknowledged hid hrun
  | cancelled _ reason =>
    obtain ⟨state, hstate, rfl, -⟩ :=
      (@transitionToTerminal_eq_ok _ _ .cancelled _ _ rfl).mp hrun
    have hfinished := h.finished rfl hstate
    exact ⟨hfinished.1, fun _ _ => hfinished.2⟩
  | expired _ reason =>
    obtain ⟨state, hstate, rfl, -⟩ :=
      (@transitionToTerminal_eq_ok _ _ .expired _ _ rfl).mp hrun
    have hfinished := h.finished rfl hstate
    exact ⟨hfinished.1, fun _ _ => hfinished.2⟩
  | rejected _ reason =>
    obtain ⟨state, hstate, rfl, -⟩ :=
      (@transitionToTerminal_eq_ok _ _ .rejected _ _ rfl).mp hrun
    have hfinished := h.finished rfl hstate
    exact ⟨hfinished.1, fun _ _ => hfinished.2⟩
  | cancelRejected =>
    have hrejected := h.cancelRejected hrun
    exact ⟨hrejected.1, fun hunfilled _ => hrejected.2 hunfilled⟩
  | replaceRequested =>
    obtain ⟨-, rfl | ⟨hworking, rfl⟩⟩ := applyReplaceRequested_eq_ok hrun
    · exact ⟨h, fun hunfilled _ => hunfilled⟩
    · exact ⟨h.replacing hworking, fun _ _ => nofun⟩
  | replaced hid =>
    rcases applyReplaced_eq_ok hrun with rfl | ⟨hawaits, hprevious, rfl⟩
    · exact ⟨h, fun hunfilled _ => hunfilled⟩
    · have hopen : order.oms.state ≠ .filled := by
        rcases of_awaitsAnswer hawaits with hstate | hstate <;>
          rw [hstate] <;> decide
      have hanswered := h.answered hopen
      refine ⟨⟨hanswered.positive, hanswered.nonneg, hanswered.fits, hanswered.full,
        hanswered.part, hanswered.unsent, hanswered.returns, hanswered.returnsPart⟩, ?_⟩
      intro _ hregular
      refine @unfilled_answered order ?_
      exact fun hreturns => hregular ⟨hid, hprevious, hawaits, hreturns⟩
  | replaceRejected hreason =>
    rcases applyReplaceRejected_eq_ok hrun with
      ⟨-, rfl⟩ | ⟨hawaits, rfl⟩
    · exact ⟨h, fun hunfilled _ => hunfilled⟩
    · have hopen : order.oms.state ≠ .filled := by
        rcases of_awaitsAnswer hawaits with hstate | hstate <;>
          rw [hstate] <;> decide
      refine ⟨h.answered hopen, fun _ hregular => unfilled_answered ?_⟩
      exact fun hreturns => hregular ⟨hreason, hawaits, hreturns⟩

theorem created {s : ServiceRecord} {orderId : String}
    (h : OrderCreated s orderId order) : order.Tracks ∧ order.Unfilled := by
  obtain ⟨-, intent, market, decidedAt, submittedBy, decision, admitted, -,
    horder, -⟩ := h
  obtain ⟨homs, hfresh, -, -⟩ := of_pendingOrder horder
  have hquantity : 0 < intent.quantity.scaled :=
    OrderIntent.quantity_pos admitted.validIntent
  have hwanted : order.wanted = intent.quantity.scaled := by
    rw [wanted, homs]
  have hheld : order.held = 0 := by
    rw [held, hfresh.filled, scaled_zero]
  have hstate : order.oms.state = .pendingSubmit := by
    rw [homs]
  refine ⟨⟨?_, ?_, ?_, ?_, ?_, fun _ => hheld, ?_, ?_⟩, fun _ => hheld⟩
  · omega
  · omega
  · omega
  · rw [hstate]
    exact ⟨nofun, fun hfull => by omega⟩
  · rw [hstate]
    exact nofun
  · rw [hfresh.returnState]
    exact nofun
  · rw [hfresh.returnState]
    exact nofun

theorem change {may : Allowance} {s : ServiceRecord} (h : order.Tracks)
    (hchange : OrderChange may s order order') : order'.Tracks := by
  cases hchange with
  | moved hmove => exact (h.orderMove hmove).1
  | cancelling hstate =>
    refine h.moves ?_ .pendingCancel (by decide) nofun rfl
    rcases of_isWorkingState hstate with hstate | hstate <;> rw [hstate] <;>
      decide
  | replacing hstate => exact h.replacing hstate
  | handled _ _ hhandler hrun => exact (h.handled hhandler hrun).1
  | executed hvalid hexecuted => exact (h.executed hvalid hexecuted).1

end Tracks

end PaperOrder

/-! ## Runs -/

/-- No event returns an order with fills to `ACKNOWLEDGED`. -/
def regular : Allowance where
  event := fun s event => ∀ order, s.orders[event.clientOrderId]? = some order →
    ¬order.Regresses event
  decision := fun _ _ => True
  comboDecision := fun _ _ => True
  action := fun _ _ => True

variable {s : ServiceRecord} {orderId : String} {order : PaperOrder}

theorem reachable_tracks {may : Allowance} (hs : ReachableRecord may s)
    (hfind : s.orders[orderId]? = some order) : order.Tracks := by
  induction hs generalizing orderId order with
  | init h =>
    cases h
    simp [startRecord, PaperTradingService.emptyBooks] at hfind
  | step _ hstep ih =>
    rcases hstep.order hfind with hcreated | hsame | ⟨prior, hprior, hchange⟩
    · exact (PaperOrder.Tracks.created hcreated).1
    · exact ih hsame
    · exact (ih hprior).change hchange

theorem reachable_unfilled (hs : ReachableRecord regular s)
    (hfind : s.orders[orderId]? = some order) : order.Unfilled := by
  induction hs generalizing orderId order with
  | init h =>
    cases h
    simp [startRecord, PaperTradingService.emptyBooks] at hfind
  | step hs hstep ih =>
    rcases hstep.order hfind with hcreated | hsame | ⟨prior, hprior, hchange⟩
    · exact (PaperOrder.Tracks.created hcreated).2
    · exact ih hsame
    · have htracks := reachable_tracks hs hprior
      cases hchange with
      | moved hmove => exact (htracks.orderMove hmove).2
      | cancelling => exact nofun
      | replacing => exact nofun
      | handled hevent hmay hhandler hrun =>
        exact (htracks.handled hhandler hrun).2 (ih hprior)
          (hmay prior hevent)
      | executed hvalid hexecuted =>
        exact (htracks.executed hvalid hexecuted).2

namespace PaperTradingService

variable {B : Type} [PaperBrokerAdapter B] [ContentHash]

/-- In every run whose events are regular the state of an order agrees with
its fills. -/
theorem order_state_matches_fills {s : PaperTradingService B}
    (hs : Reachable Started (AllowedStep regular) s) {orderId : String}
    {order : PaperOrder} (hfind : s.orders[orderId]? = some order) :
    (order.oms.state = .filled → order.filledQuantity = order.oms.intent.quantity) ∧
      (order.oms.state = .partiallyFilled → Decimal.zero < order.filledQuantity ∧
          order.filledQuantity < order.oms.intent.quantity) ∧
      (order.oms.state = .acknowledged → order.filledQuantity = Decimal.zero) ∧
      (order.oms.state = .cancelled ∨ order.oms.state = .rejected ∨
          order.oms.state = .expired →
        order.filledQuantity < order.oms.intent.quantity) := by
  have hrecord := reachable_allowed hs
  have htracks := reachable_tracks hrecord hfind
  have hunfilled := reachable_unfilled hrecord hfind
  have hshort : order.oms.state ≠ .filled →
      order.filledQuantity < order.oms.intent.quantity := by
    intro hopen
    have hfits := htracks.fits
    have hne : order.held ≠ order.wanted := fun hfull =>
      hopen (htracks.full.mpr hfull)
    exact lt_of_le_of_ne hfits hne
  refine ⟨fun hstate => Decimal.ext (htracks.full.mp hstate), ?_,
    fun hstate => Decimal.ext (hunfilled hstate), ?_⟩
  · intro hstate
    exact ⟨htracks.part hstate, hshort (by rw [hstate]; decide)⟩
  · rintro (hstate | hstate | hstate) <;> exact hshort (by rw [hstate]; decide)

end PaperTradingService

namespace Session

attribute [local instance] contentHash

/-- An order just acknowledged. -/
theorem order_state_matches_submission :
    ∃ order, (play start submission).orders["order-intent-1"]? = some order ∧
      (order.oms.state = .filled → order.filledQuantity = order.oms.intent.quantity) ∧
        (order.oms.state = .partiallyFilled → Decimal.zero < order.filledQuantity ∧
            order.filledQuantity < order.oms.intent.quantity) ∧
        (order.oms.state = .acknowledged → order.filledQuantity = Decimal.zero) ∧
        (order.oms.state = .cancelled ∨ order.oms.state = .rejected ∨
            order.oms.state = .expired →
          order.filledQuantity < order.oms.intent.quantity) := by
  have hsome :
      ((play start submission).orders["order-intent-1"]?).isSome = true := by
    decide
  have hwithin : PaperTradingService.Within regular start
      (.submitIntent intent market decidedAt none) := fun _ _ _ => trivial
  obtain ⟨order, hfind⟩ := isSome_iff_exists.mp hsome
  exact ⟨order, hfind, PaperTradingService.order_state_matches_fills
    (.step (.init start_started) (.operate hwithin)) hfind⟩

/-- A fill that arrives between a replacement's request and its answer leaves
the order `ACKNOWLEDGED`. -/
theorem acknowledged_with_fills : ∃ s : PaperTradingService IbkrPaperAdapter,
      Reachable PaperTradingService.Started PaperTradingService.Step s ∧
        ∃ order, s.orders["order-intent-1"]? = some order ∧
          order.oms.state = .acknowledged ∧
            order.filledQuantity ≠ Decimal.zero := by
  let moves : List Move := [submission, partialFill,
    .operate (.replaceOrder "order-intent-1" (amount 9900000000)),
    .operate .synchronize]
  have hfinal : ((moves.foldl play start).orders["order-intent-1"]?.map
      fun order => (order.oms.state, order.filledQuantity))
        = some (.acknowledged, amount 400000000) := by
    decide +kernel
  obtain ⟨order, hfind, hpair⟩ := map_eq_some_iff.mp hfinal
  obtain ⟨hstate, hfilled⟩ := Prod.mk.inj hpair
  refine ⟨_, reachable_plays moves, order, hfind, hstate, ?_⟩
  rw [hfilled]
  decide

end Session

end Follon.Paper
