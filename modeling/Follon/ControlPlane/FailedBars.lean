import Follon.ControlPlane.ReplayIdentities

/-!
# Orders across a failed bar

A bar takes its eligible orders out of the working set one at a time.  Whatever
fails, only the order in hand at that moment is missing afterwards; every other
order is held with what the recorded fills have left of it.
-/

namespace Follon.ControlPlane

open Foundation Domain

namespace Replay

variable {K S : Type}

structure Keyed (b : Bench K S) : Prop where
  working : ∀ (orderId : String) working,
    b.2.engine.workingOrders[orderId]? = some working →
      working.order.orderId = orderId ∧ 0 ≤ working.remainingQuantity.scaled
  hand : ∀ orderId working, b.1 = some (orderId, working) →
    working.order.orderId = orderId ∧ 0 ≤ working.remainingQuantity.scaled ∧
      orderId ∉ b.2.engine.workingOrders

structure Reduced (fills : List Fill)
    (working working' : SimulatedWorkingOrder) : Prop where
  orderId : working'.order.orderId = working.order.orderId
  intent : working'.order.intent = working.order.intent
  remaining : working'.remainingQuantity.scaled
    = working.remainingQuantity.scaled - filledBy fills

/-- Where an order is that was held before the events `new`. -/
inductive Whereabouts (new : List EventEnvelope) (b : Bench K S)
    (orderId : String) (working : SimulatedWorkingOrder) : Prop
  | held {working' : SimulatedWorkingOrder}
      (hfind : b.2.engine.workingOrders[orderId]? = some working')
      (h : Reduced (fillsOf orderId new) working working')
  | inHand {working' : SimulatedWorkingOrder}
      (hhand : b.1 = some (orderId, working'))
      (h : Reduced (fillsOf orderId new) working working')
  | completed (hfree : orderId ∉ b.2.engine.workingOrders)
      (hhand : ∀ working', b.1 ≠ some (orderId, working'))
      (h : filledBy (fillsOf orderId new) = working.remainingQuantity.scaled)

structure Progress (takes : String → Prop) (s : Replay K S)
    (new : List EventEnvelope) (b : Bench K S) : Prop where
  stream : b.2.stream = s.stream ++ new
  orders : ∀ (orderId : String) working,
    s.engine.workingOrders[orderId]? = some working → Whereabouts new b orderId working
  hand : ∀ orderId working, b.1 = some (orderId, working) → takes orderId
  others : ∀ orderId, ¬takes orderId →
    b.2.engine.workingOrders[orderId]? = s.engine.workingOrders[orderId]?

theorem Reduced.refl (working : SimulatedWorkingOrder) : Reduced [] working working :=
  ⟨rfl, rfl, by simp [filledBy]⟩

/-! ## Keys -/

section Keys

variable [EventSink K] {h : Hand} {s t : Replay K S}

theorem Keyed.move {phase : Phase} {b c : Bench K S} (hmove : Move phase b c)
    (hkeyed : Keyed b) : Keyed c := by
  cases hmove with
  | quiet hsame =>
    refine ⟨fun orderId working hfind => ?_,
      fun orderId working hhand => ?_⟩
    · exact hkeyed.working orderId working (hsame.working ▸ hfind)
    · obtain ⟨hid, hleft, hfree⟩ := hkeyed.hand orderId working hhand
      exact ⟨hid, hleft, hsame.working.symm ▸ hfree⟩
  | @takenUp s orderId working _ hfind =>
    refine ⟨fun orderId' other hother => ?_, fun orderId' other hhand => ?_⟩
    · simp only [release, edit, getElem?_erase] at hother
      split at hother
      · contradiction
      · exact hkeyed.working orderId' other hother
    · obtain ⟨rfl, rfl⟩ := Prod.mk.inj (Option.some.inj hhand)
      obtain ⟨hid, hleft⟩ := hkeyed.working orderId working hfind
      exact ⟨hid, hleft, by simp [release, edit]⟩
  | finished => exact ⟨hkeyed.working, by simp⟩
  | @kept s orderId working _ =>
    refine ⟨fun orderId' other hfind => ?_, by simp⟩
    simp only [hold, edit, getElem?_insert] at hfind
    split at hfind
    · next hsame =>
        obtain rfl := Option.some.inj hfind
        obtain ⟨hid, hleft, -⟩ := hkeyed.hand orderId working rfl
        exact ⟨hid.trans (Std.LawfulEqCmp.eq_of_compare hsame), hleft⟩
    · exact hkeyed.working orderId' other hfind
  | caused horder hremaining =>
    refine ⟨hkeyed.working, fun orderId' other hhand => ?_⟩
    obtain ⟨rfl, rfl⟩ := Prod.mk.inj (Option.some.inj hhand)
    rw [horder, hremaining]
    exact hkeyed.hand _ _ rfl
  | @moved s orderId working =>
    refine ⟨hkeyed.working, fun orderId' other hhand => ?_⟩
    obtain ⟨rfl, rfl⟩ := Prod.mk.inj (Option.some.inj hhand)
    exact hkeyed.hand orderId working rfl
  | filled _ _ _ hfill hleft =>
    refine ⟨hkeyed.working, fun orderId' other hhand => ?_⟩
    obtain ⟨rfl, rfl⟩ := Prod.mk.inj (Option.some.inj hhand)
    obtain ⟨hid, -, hfree⟩ := hkeyed.hand _ _ rfl
    refine ⟨hid, ?_, hfree⟩
    have hle := hfill.le
    simp only
    omega
  | created _ _ _ hvalid hfree =>
    refine ⟨hkeyed.working, fun orderId' other hhand => ?_⟩
    obtain ⟨rfl, rfl⟩ := Prod.mk.inj (Option.some.inj hhand)
    exact ⟨rfl, Int.le_of_lt (OrderIntent.quantity_pos hvalid), hfree⟩
  | _ => exact ⟨hkeyed.working, hkeyed.hand⟩

theorem Replayed.keyed [Strategy S] (hs : Replayed s) :
    Keyed ((none, s) : Bench K S) := by
  refine Replayed.keeps (I := Keyed) ?_ ?_
    (fun _ _ hkeyed hmove => hkeyed.move hmove) hs
  · rintro s ⟨⟨_, _, _, _, _, hnew⟩, -, -⟩
    simp only [ReplayEngine.new, bind_eq_ok, pure_eq_ok] at hnew
    obtain ⟨_, -, _, -, _, -, _, -, hengine⟩ := hnew
    exact ⟨by simp [← hengine], by simp⟩
  · exact fun h s hkeyed => ⟨hkeyed.working, by simp⟩

end Keys

/-! ## Matching -/

namespace Progress

variable {takes : String → Prop} {s t u : Replay K S} {h : Hand}
  {new : List EventEnvelope} {orderId : String}
  {working working' : SimulatedWorkingOrder} {event : EventEnvelope}

theorem refl (s : Replay K S) : Progress takes s [] (none, s) where
  stream := (append_nil _).symm
  orders := fun _ working hfind => .held hfind (.refl working)
  hand := by simp
  others := fun _ _ => rfl

variable {new' : List EventEnvelope} {b c : Bench K S}

theorem silent (hprogress : Progress takes s new (h, t))
    (hworking : u.engine.workingOrders = t.engine.workingOrders)
    (hstream : u.stream = s.stream ++ new')
    (hfills : ∀ orderId, fillsOf orderId new' = fillsOf orderId new) :
    Progress takes s new' (h, u) where
  stream := hstream
  orders := by
    intro orderId working hfind
    cases hprogress.orders orderId working hfind with
    | held hheld hreduced =>
      exact .held (hworking ▸ hheld) (hfills orderId ▸ hreduced)
    | inHand hhand hreduced =>
      exact .inHand hhand (hfills orderId ▸ hreduced)
    | completed hfree hhand hfilled =>
      exact .completed (hworking ▸ hfree) hhand (hfills orderId ▸ hfilled)
  hand := hprogress.hand
  others := by
    intro orderId hother
    rw [hworking]
    exact hprogress.others orderId hother

theorem takeUp (hprogress : Progress takes s new (none, t)) (htakes : takes orderId)
    (hfind : t.engine.workingOrders[orderId]? = some working) :
    Progress takes s new (some (orderId, working), t.release orderId) where
  stream := hprogress.stream
  orders := by
    intro orderId' before hbefore
    by_cases hsame : orderId = orderId'
    · subst hsame
      cases hprogress.orders orderId before hbefore with
      | held hheld hreduced =>
        obtain rfl := Option.some.inj (hfind.symm.trans hheld)
        exact .inHand rfl hreduced
      | inHand hhand => contradiction
      | completed hfree =>
        have hmem : orderId ∈ t.engine.workingOrders := by
          rw [mem_iff_isSome_getElem?, hfind]
          rfl
        exact absurd hmem hfree
    · have herased : (t.release orderId).engine.workingOrders[orderId']?
          = t.engine.workingOrders[orderId']? := by
        simp [release, edit, getElem?_erase, hsame]
      cases hprogress.orders orderId' before hbefore with
      | held hheld hreduced => exact .held (herased.trans hheld) hreduced
      | inHand hhand => contradiction
      | completed hfree _ hfilled =>
        refine .completed ?_ ?_ hfilled
        · simp [release, edit, hfree]
        · exact fun working' hhand =>
            hsame (Prod.mk.inj (Option.some.inj hhand)).1
  hand := by
    intro orderId' other hhand
    obtain ⟨rfl, rfl⟩ := Prod.mk.inj (Option.some.inj hhand)
    exact htakes
  others := by
    intro orderId' hother
    have hne : orderId ≠ orderId' := fun hsame => hother (hsame ▸ htakes)
    rw [← hprogress.others orderId' hother]
    simp [release, edit, getElem?_erase, hne]

theorem finish (hprogress : Progress takes s new (some (orderId, working), t))
    (hleft : 0 ≤ working.remainingQuantity.scaled)
    (hfree : orderId ∉ t.engine.workingOrders)
    (hdone : ¬Decimal.zero < working.remainingQuantity) :
    Progress takes s new (none, t) where
  stream := hprogress.stream
  orders := by
    intro orderId' before hbefore
    cases hprogress.orders orderId' before hbefore with
    | held hheld hreduced => exact .held hheld hreduced
    | inHand hhand hreduced =>
      obtain ⟨rfl, rfl⟩ := Prod.mk.inj (Option.some.inj hhand)
      have hremaining := hreduced.remaining
      rw [lt_def, scaled_zero] at hdone
      exact .completed hfree (by simp) (by omega)
    | completed hfree' _ hfilled => exact .completed hfree' (by simp) hfilled
  hand := by simp
  others := hprogress.others

theorem keep (hprogress : Progress takes s new (some (orderId, working), t))
    (hfree : orderId ∉ t.engine.workingOrders) :
    Progress takes s new (none, t.hold orderId working) where
  stream := hprogress.stream
  orders := by
    intro orderId' before hbefore
    have hinserted : ∀ {key : String}, orderId ≠ key →
        (t.hold orderId working).engine.workingOrders[key]?
          = t.engine.workingOrders[key]? := fun hne =>
      getElem?_insert_of_ne _ _ hne
    cases hprogress.orders orderId' before hbefore with
    | held hheld hreduced =>
      refine .held ((hinserted ?_).trans hheld) hreduced
      rintro rfl
      refine hfree ?_
      rw [mem_iff_isSome_getElem?, hheld]
      rfl
    | inHand hhand hreduced =>
      obtain ⟨rfl, rfl⟩ := Prod.mk.inj (Option.some.inj hhand)
      exact .held (by simp [hold, edit]) hreduced
    | completed hfree' hhand hfilled =>
      have hne : orderId ≠ orderId' := by
        rintro rfl
        exact hhand working rfl
      refine .completed ?_ (by simp) hfilled
      rw [mem_iff_isSome_getElem?, hinserted hne, ← mem_iff_isSome_getElem?]
      exact hfree'
  hand := by simp
  others := by
    intro orderId' hother
    have hne : orderId ≠ orderId' := by
      rintro rfl
      exact hother (hprogress.hand orderId working rfl)
    rw [← hprogress.others orderId' hother]
    exact getElem?_insert_of_ne _ _ hne

theorem retouch (hprogress : Progress takes s new (some (orderId, working), t))
    (hworking : u.engine.workingOrders = t.engine.workingOrders)
    (hstream : u.stream = s.stream ++ new')
    (hid : working'.order.orderId = working.order.orderId)
    (hintent : working'.order.intent = working.order.intent)
    (hremaining : working'.remainingQuantity.scaled = working.remainingQuantity.scaled
        - (filledBy (fillsOf orderId new') - filledBy (fillsOf orderId new)))
    (hothers : ∀ other, other ≠ orderId → fillsOf other new' = fillsOf other new)
    (hfree : orderId ∉ t.engine.workingOrders) :
    Progress takes s new' (some (orderId, working'), u) where
  stream := hstream
  orders := by
    intro orderId' before hbefore
    cases hprogress.orders orderId' before hbefore with
    | held hheld hreduced =>
      have hne : orderId' ≠ orderId := by
        rintro rfl
        refine hfree ?_
        rw [mem_iff_isSome_getElem?, hheld]
        rfl
      exact .held (hworking ▸ hheld) (hothers orderId' hne ▸ hreduced)
    | inHand hhand hreduced =>
      obtain ⟨rfl, rfl⟩ := Prod.mk.inj (Option.some.inj hhand)
      refine .inHand rfl ⟨hid.trans hreduced.orderId, hintent.trans hreduced.intent, ?_⟩
      have hbefore := hreduced.remaining
      omega
    | completed hfree' hhand hfilled =>
      have hne : orderId' ≠ orderId := by
        rintro rfl
        exact hhand working rfl
      refine .completed (hworking ▸ hfree') ?_
        (hothers orderId' hne ▸ hfilled)
      intro other hsame
      exact hne (Prod.mk.inj (Option.some.inj hsame)).1.symm
  hand := by
    intro orderId' other hhand
    obtain ⟨rfl, rfl⟩ := Prod.mk.inj (Option.some.inj hhand)
    exact hprogress.hand orderId working rfl
  others := by
    intro orderId' hother
    rw [hworking]
    exact hprogress.others orderId' hother

variable [EventSink K]

theorem move (hmove : Move (.matching takes) b c) (hkeyed : Keyed b)
    (hprogress : Progress takes s new b) : ∃ new', Progress takes s new' c := by
  have happended : ∀ {t : Replay K S} {event : EventEnvelope},
      t.stream = s.stream ++ new →
      t.stream ++ [event] = s.stream ++ (new ++ [event]) := by
    intro t event hstream
    rw [hstream, append_assoc]
  have hnofill : ∀ {event : EventEnvelope}, event.payload.fill? = none →
      ∀ orderId, fillsOf orderId (new ++ [event]) = fillsOf orderId new := by
    intro event hnone orderId
    rw [fillsOf_append, fillsOf, fillsOf, fillsIn_single, hnone]
    exact append_nil _
  cases hmove with
  | quiet hsame =>
    exact ⟨new, hprogress.silent hsame.working hprogress.stream
      fun _ => rfl⟩
  | emitted _ _ hplain =>
    exact ⟨_, hprogress.silent rfl (happended hprogress.stream)
      (hnofill (EventPayload.plain hplain).2)⟩
  | takenUp htakes hfind => exact ⟨new, hprogress.takeUp htakes hfind⟩
  | @finished s orderId working hdone =>
    obtain ⟨-, hleft, hfree⟩ := hkeyed.hand orderId working rfl
    exact ⟨new, hprogress.finish hleft hfree hdone⟩
  | @kept s orderId working _ =>
    obtain ⟨-, -, hfree⟩ := hkeyed.hand orderId working rfl
    exact ⟨new, hprogress.keep hfree⟩
  | @caused s orderId working working' horder hremaining =>
    obtain ⟨-, -, hfree⟩ := hkeyed.hand orderId working rfl
    refine ⟨new, hprogress.retouch rfl hprogress.stream (by rw [horder])
      (by rw [horder]) ?_ (fun _ _ => rfl) hfree⟩
    rw [hremaining]
    omega
  | @moved t orderId working next reason event _ _ _ _ hpayload =>
    obtain ⟨-, -, hfree⟩ := hkeyed.hand orderId working rfl
    have hnone : ∀ orderId,
        fillsOf orderId (new ++ [event]) = fillsOf orderId new :=
      hnofill (by rw [hpayload]; rfl)
    refine ⟨_, hprogress.retouch rfl (happended hprogress.stream) rfl rfl ?_
      (fun other _ => hnone other) hfree⟩
    rw [hnone]
    simp only [inState]
    omega
  | @filled t orderId working booked left event _ _ _ _ hfill hleft
      hpayload =>
      obtain ⟨hid, -, hfree⟩ := hkeyed.hand orderId working rfl
      have hbooked : booked.orderId = orderId := hfill.order.trans hid
      refine ⟨_, hprogress.retouch rfl (happended hprogress.stream) rfl rfl ?_ ?_ hfree⟩
      · have hone : fillsOf orderId [event] = [booked] := by
          rw [fillsOf, fillsIn_single, hpayload]
          simp [EventPayload.fill?, hbooked]
        rw [fillsOf_append, hone, filledBy_append]
        simp only [filledBy, map_cons, map_nil, sum_cons, List.sum_nil]
        omega
      · intro other hother
        have hne : event.payload.orderId? ≠ some other := by
          rw [hpayload]
          exact fun hsame => hother (hbooked ▸ Option.some.inj hsame).symm
        rw [fillsOf_append, fillsOf_other hne, append_nil]
  | created hphase => exact hphase.elim
  | _ => exact ⟨new, hprogress.silent rfl hprogress.stream fun _ => rfl⟩

theorem moves (hmoves : Moves (.matching takes) b c) (hkeyed : Keyed b)
    (hprogress : Progress takes s new b) : ∃ new', Keyed c ∧ Progress takes s new' c := by
  induction hmoves with
  | refl => exact ⟨new, hkeyed, hprogress⟩
  | tail _ hmove ih =>
    obtain ⟨new', hkeyed', hprogress'⟩ := ih
    obtain ⟨new'', hprogress''⟩ := hprogress'.move hmove hkeyed'
    exact ⟨new'', hkeyed'.move hmove, hprogress''⟩

end Progress

/-! ## Answering -/

theorem Moves.answering_keeps [EventSink K] {b c : Bench K S}
    (hmoves : Moves .answering b c) (hkeyed : Keyed b) :
    Keyed c ∧ ∀ (orderId : String) working,
      b.2.engine.workingOrders[orderId]? = some working →
        c.2.engine.workingOrders[orderId]? = some working := by
  induction hmoves with
  | refl => exact ⟨hkeyed, fun _ _ hfind => hfind⟩
  | tail _ hmove ih =>
    obtain ⟨ihkeyed, ihkeeps⟩ := ih
    refine ⟨ihkeyed.move hmove, fun orderId working hfind => ?_⟩
    have hheld := ihkeeps orderId working hfind
    cases hmove with
    | quiet hsame =>
      simp only [setEngine]
      rw [hsame.working]
      exact hheld
    | takenUp hphase => exact hphase.elim
    | @kept s orderId' working' _ =>
      obtain ⟨-, -, hfree⟩ := ihkeyed.hand orderId' working' rfl
      have hne : orderId' ≠ orderId := by
        rintro rfl
        refine hfree ?_
        rw [mem_iff_isSome_getElem?, hheld]
        rfl
      exact (getElem?_insert_of_ne _ _ hne).trans hheld
    | _ => exact hheld

/-! ## Bars -/

/-- What a bar does to the orders held before it.  `lost` is the order in hand
when the bar failed, if it did and one was. -/
structure KeepsOrders (accountId : String) (bar : Bar) (s t : Replay K S)
    (lost : Option String) : Prop where
  eligible : ∀ orderId ∈ lost, Eligible s accountId bar orderId
  held : ∀ (orderId : String) working,
    s.engine.workingOrders[orderId]? = some working → orderId ∉ lost →
      ∀ new, t.stream = s.stream ++ new →
        (∃ working', t.engine.workingOrders[orderId]? = some working' ∧
          Reduced (fillsOf orderId new) working working') ∨
        filledBy (fillsOf orderId new) = working.remainingQuantity.scaled
  waiting : ∀ (orderId : String) working,
    s.engine.workingOrders[orderId]? = some working → ¬Eligible s accountId bar orderId →
        t.engine.workingOrders[orderId]? = some working

section Bars

variable [EventSink K] {s t : Replay K S} {accountId : String} {bar : Bar}

variable {h : Hand} {new : List EventEnvelope}

omit [EventSink K] in
theorem Progress.keepsOrders
    (hprogress : Progress (Eligible s accountId bar) s new (h, t)) :
    KeepsOrders accountId bar s t (h.map Prod.fst) where
  eligible := by
    intro orderId hlost
    obtain ⟨⟨_, working⟩, hhand, rfl⟩ := map_eq_some_iff.mp hlost
    exact hprogress.hand _ working hhand
  held := by
    intro orderId working hfind hnot new' hstream
    have hnew : new' = new :=
      List.append_cancel_left (hstream.symm.trans hprogress.stream)
    rw [hnew]
    cases hprogress.orders orderId working hfind with
    | held hheld hreduced => exact .inl ⟨_, hheld, hreduced⟩
    | inHand hhand =>
      have hsome : h = some (orderId, _) := hhand
      exact absurd (by rw [hsome]; rfl) hnot
    | completed _ _ hfilled => exact .inr hfilled
  waiting := by
    intro orderId working hfind hother
    exact (hprogress.others orderId hother).trans hfind

theorem KeepsOrders.answered {u : Replay K S}
    (hprogress : Progress (Eligible s accountId bar) s new (none, u))
    (hkeyed : Keyed ((none, u) : Bench K S))
    (hanswered : Moves .answering (none, u) (h, t)) :
    KeepsOrders accountId bar s t none := by
  obtain ⟨hmatched, hwaiting⟩ : KeepsOrders accountId bar s u none ∧
      ∀ (orderId : String) working, s.engine.workingOrders[orderId]? = some working →
          ¬Eligible s accountId bar orderId →
            u.engine.workingOrders[orderId]? = some working :=
    ⟨hprogress.keepsOrders, hprogress.keepsOrders.waiting⟩
  obtain ⟨-, hkept⟩ := hanswered.answering_keeps hkeyed
  obtain ⟨more, hmore⟩ := hanswered.stream
  have hfills : fillsIn more = [] := by
    have hall : fillsIn t.stream = fillsIn u.stream := hanswered.answering
    have hmore' : u.stream ++ more = t.stream := hmore
    rw [← hmore', fillsIn_append] at hall
    exact List.self_eq_append_right.mp hall.symm
  refine ⟨by simp, ?_, fun orderId working hfind hother =>
    hkept orderId working (hwaiting orderId working hfind hother)⟩
  intro orderId working hfind hnot new' hstream
  have hnew : new' = new ++ more := by
    have hmore' : u.stream ++ more = t.stream := hmore
    have hbefore : u.stream = s.stream ++ new := hprogress.stream
    rw [← hmore', hbefore, append_assoc] at hstream
    exact (List.append_cancel_left hstream).symm
  have hsame : fillsOf orderId new' = fillsOf orderId new := by
    rw [hnew, fillsOf_append, fillsOf, fillsOf, hfills]
    exact append_nil _
  rw [hsame]
  rcases hmatched.held orderId working hfind hnot new hprogress.stream with
    ⟨working', hheld, hreduced⟩ | hfilled
  · exact .inl ⟨working', hkept orderId working' hheld, hreduced⟩
  · exact .inr hfilled

/-- Whether a bar succeeds or fails, every order held before it but one at the
most is held after it with what its new fills have left, or they complete it;
an order the bar may not fill is held as it was. -/
theorem bars_keep_orders [Strategy S] (hs : Replayed s)
    {operation : ReplayOperation} (hbar : operation.barOf = some (accountId, bar)) :
    ∃ lost, KeepsOrders accountId bar s ((execute operation).final s) lost := by
  have hkeyed := Replayed.keyed hs
  rcases execute_barOf hbar (Replayed.caused hs) with
    ⟨h, hmatched⟩ | ⟨u, h, hmatched, hanswered⟩
  · obtain ⟨new, -, hprogress⟩ :=
      (Progress.refl s).moves hmatched hkeyed
    exact ⟨_, hprogress.keepsOrders⟩
  · obtain ⟨new, hkeyed', hprogress⟩ :=
      (Progress.refl s).moves hmatched hkeyed
    exact ⟨none, .answered hprogress hkeyed' hanswered⟩

end Bars

end Replay

/-! ## A bar that fails between two orders -/

namespace Session

def answers : List (Option OrderIntent) :=
  [some { intent with quantity := .twenty },
    some { intent with
      intentId := "intent-2", orderType := .limit
      limitPrice := some ⟨10050000000, by decide, by decide⟩ }]

def owed (s : Replay InMemoryEventStore Script) (orderId : String) : Option Int :=
  s.engine.workingOrders[orderId]?.map (·.remainingQuantity.scaled)

theorem failed_run : ∃ s : Replay InMemoryEventStore Script, Replay.Replayed s ∧
      owed s "order-intent-1" = some 1500000000 ∧
      owed s "order-intent-2" = some 1000000000 ∧
      ((Replay.execute (barAt "2026-01-05T14:32:00Z")).run s).1.toOption = none ∧
      owed ((Replay.execute (barAt "2026-01-05T14:32:00Z")).final s)
        "order-intent-1" = some 1000000000 ∧
      owed ((Replay.execute (barAt "2026-01-05T14:32:00Z")).final s)
        "order-intent-2" = none :=
  ⟨play (start (some five) answers) (minutes.take 2),
    replayed_play (.init (start_constructed (by decide) _)) _,
    by decide +kernel⟩

theorem bars_keep_orders_failing :
    ∃ (s : Replay InMemoryEventStore Script) (lost : Option String),
      owed s "order-intent-1" = some 1500000000 ∧
      ((Replay.execute (barAt "2026-01-05T14:32:00Z")).run s).1.toOption = none ∧
      Replay.KeepsOrders "acct-1" bar s
        ((Replay.execute (barAt "2026-01-05T14:32:00Z")).final s) lost := by
  obtain ⟨s, hs, howed, -, hfails, -, -⟩ := failed_run
  have hbar : (barAt "2026-01-05T14:32:00Z").barOf = some ("acct-1", bar) := rfl
  obtain ⟨lost, hkeeps⟩ := Replay.bars_keep_orders hs hbar
  exact ⟨s, lost, howed, hfails, hkeeps⟩

/-- One order comes back with less than it owed, the other not at all. -/
theorem failed_bar_changes_orders :
    ∃ (s : Replay InMemoryEventStore Script) (operation : ReplayOperation),
      Replay.Replayed s ∧ operation.barOf = some ("acct-1", bar) ∧
      ((Replay.execute operation).run s).1.toOption = none ∧
      ∀ orderId ∈ ["order-intent-1", "order-intent-2"], (owed s orderId).isSome = true ∧
          owed ((Replay.execute operation).final s) orderId
            ≠ owed s orderId := by
  obtain ⟨s, hs, hfirst, hsecond, hfails, hfirst', hsecond'⟩ := failed_run
  refine ⟨s, barAt "2026-01-05T14:32:00Z", hs, rfl, hfails, ?_⟩
  intro orderId hmem
  rcases List.mem_pair.mp hmem with rfl | rfl
  · rw [hfirst, hfirst']
    exact ⟨rfl, by decide⟩
  · rw [hsecond, hsecond']
    exact ⟨rfl, by decide⟩

end Session

end Follon.ControlPlane
