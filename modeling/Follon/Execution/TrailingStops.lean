import Follon.Execution.Plan

/-!
# Trailing stops

A trailing stop keeps the most favourable mark it has seen and the stop price
that follows it.  An update writes the mark before it computes the price, so a
price that overflows leaves the two apart.
-/

namespace Follon.Execution

open Foundation Domain

def trailingPrice (side : Side) (trailBps : Nat) (reference : Decimal) :
    Result Decimal := do
  let bps ← Decimal.fromInteger trailBps
  let scaled ← reference.checkedMul bps
  let tenThousand ← Decimal.fromInteger 10000
  let distance ← scaled.checkedDiv tenThousand
  match side with
  | .sell => reference.checkedSub distance
  | .buy => reference.checkedAdd distance

/-- A trailing stop that closes a long position (`sell`) or a short one
(`buy`). -/
structure TrailingStop where
  side : Side
  trailBps : Nat
  (favorableReference stopPrice : Decimal)
  deriving DecidableEq

namespace TrailingStop

def new (side : Side) (trailBps : Nat) (initialMark : Decimal) : Result TrailingStop := do
  refuseIf (¬(1 ≤ trailBps ∧ trailBps < 10000)
    ∨ initialMark ≤ Decimal.zero) "invalid trailing-stop input"
  let stopPrice ← trailingPrice side trailBps initialMark
  pure ⟨side, trailBps, initialMark, stopPrice⟩

def favorable (stop : TrailingStop) (mark : Decimal) : Bool :=
  match stop.side with
  | .sell => stop.favorableReference < mark
  | .buy => mark < stop.favorableReference

def assignStopPrice (stop : TrailingStop) : Result Decimal → Result Decimal × TrailingStop
  | .ok price => (.ok price, { stop with stopPrice := price })
  | .error error => (.error error, stop)

def update (stop : TrailingStop) (mark : Decimal) : Result Decimal × TrailingStop :=
  if mark ≤ Decimal.zero then
    (.error ⟨"trailing-stop mark must be positive"⟩, stop)
  else if stop.favorable mark then
    -- the reference is written before the price that may overflow
    assignStopPrice { stop with favorableReference := mark }
      (trailingPrice stop.side stop.trailBps mark)
  else
    (.ok stop.stopPrice, stop)

/-! ## Runs of updates -/

def after (stop : TrailingStop) (marks : List Decimal) : TrailingStop :=
  marks.foldl (fun stop mark => (stop.update mark).2) stop

def accepts (stop : TrailingStop) (mark : Decimal) : Bool := (stop.update mark).1.isOk

def moreFavorable : Side → Decimal → Decimal → Decimal
  | .sell => Decimal.max
  | .buy => Decimal.min

/-- The most favourable of `best` and the marks the run accepts. -/
def bestAccepted (stop : TrailingStop) (best : Decimal) : List Decimal → Decimal
  | [] => best
  | mark :: rest =>
    bestAccepted (stop.update mark).2
      (if stop.accepts mark then moreFavorable stop.side best mark else best)
      rest

def NotLooser : Side → Decimal → Decimal → Prop
  | .sell, before, now => before ≤ now
  | .buy, before, now => now ≤ before

def reaches (side : Side) (mark : Decimal) : Result Decimal → Bool
  | .ok stopPrice =>
    match side with
    | .sell => mark ≤ stopPrice
    | .buy => stopPrice ≤ mark
  | .error _ => false

def trigger (stop : TrailingStop) : List Decimal → Option Decimal
  | [] => none
  | mark :: rest =>
    if reaches stop.side mark (stop.update mark).1 then
      some mark
    else
      trigger (stop.update mark).2 rest

theorem after_append (stop : TrailingStop) (marks rest : List Decimal) :
    stop.after (marks ++ rest) = (stop.after marks).after rest :=
  List.foldl_append

/-! ## The trailing price -/

def trail (trailBps : Nat) (reference : Decimal) : Int :=
  reference.scaled * trailBps / 10000

def Fits (trailBps : Nat) (mark : Decimal) : Prop :=
  mark.scaled * (trailBps * Decimal.scale) ≤ i128Max

instance (trailBps : Nat) (mark : Decimal) : Decidable (Fits trailBps mark) :=
  inferInstanceAs (Decidable (_ ≤ _))

variable {side : Side} {trailBps : Nat} {a b best mark : Decimal}
  {stop : TrailingStop} {marks : List Decimal}

theorem trailingPrice_eq_ok {reference price : Decimal}
    (hreference : 0 < reference.scaled)
    (h : trailingPrice side trailBps reference = .ok price) : Fits trailBps reference
      ∧ price.scaled = match side with
        | .sell => reference.scaled - trail trailBps reference
        | .buy => reference.scaled + trail trailBps reference := by
  simp only [trailingPrice, bind_eq_ok] at h
  obtain ⟨bps, hbps, scaled, hscaled, tenThousand, hten, distance, hdistance, hprice⟩ := h
  have hfactor : bps.scaled = trailBps * Decimal.scale := checked_eq_ok.mp hbps
  have hdivisor : tenThousand.scaled = 10000 * Decimal.scale := checked_eq_ok.mp hten
  have hmoved : scaled.scaled = reference.scaled * trailBps := by
    rw [scaled_of_checkedMul hscaled, hfactor, ← Int.mul_assoc]
    exact Int.mul_tdiv_cancel _ (by decide)
  have htrail : distance.scaled = trail trailBps reference := by
    rw [(scaled_of_checkedDiv hdistance).2, hmoved, hdivisor, trail]
    rw [Int.mul_tdiv_mul_of_pos_left _ _ (by decide)]
    exact Int.tdiv_eq_ediv_of_nonneg
      (Int.mul_nonneg (Int.le_of_lt hreference) (Int.natCast_nonneg _))
  constructor
  · simp only [Decimal.checkedMul, bind_eq_ok, checked_eq_ok] at hscaled
    obtain ⟨product, hproduct, -⟩ := hscaled
    rw [Fits, ← hfactor, ← hproduct]
    exact product.le_max
  · cases side with
    | sell => rw [checkedSub_eq_ok.mp hprice, htrail]
    | buy => rw [checkedAdd_eq_ok.mp hprice, htrail]

theorem trail_nonneg {trailBps : Nat} {reference : Decimal}
    (hreference : 0 < reference.scaled) : 0 ≤ trail trailBps reference :=
  Int.ediv_nonneg
    (Int.mul_nonneg (Int.le_of_lt hreference) (Int.natCast_nonneg _))
    (by decide)

theorem trail_le {trailBps : Nat} {reference : Decimal}
    (hreference : 0 < reference.scaled) (hbps : trailBps < 10000) :
    trail trailBps reference ≤ reference.scaled := by
  have hle : reference.scaled * trailBps ≤ reference.scaled * 10000 :=
    Int.mul_le_mul_of_nonneg_left (by omega) (Int.le_of_lt hreference)
  unfold trail
  omega

theorem trailingPrice_ok {side : Side} {trailBps : Nat} {reference : Decimal}
    (hreference : 0 < reference.scaled) (hbps : 1 ≤ trailBps ∧ trailBps < 10000)
    (hfits : Fits trailBps reference) :
    ∃ price, trailingPrice side trailBps reference = .ok price := by
  have hmax : i128Max = 170141183460469231731687303715884105727 := rfl
  have hmin : i128Min = -170141183460469231731687303715884105728 := rfl
  have hscale : Decimal.scale = 100000000 := rfl
  obtain ⟨bps, hbpsOk, hfactor⟩ := @Decimal.fromInteger_ok trailBps
    (by rw [hmin, hscale]; omega) (by rw [hmax, hscale]; omega)
  obtain ⟨tenThousand, hten, hdivisor⟩ := @Decimal.fromInteger_ok 10000
    (by decide) (by decide)
  have hsplit : reference.scaled * bps.scaled
      = reference.scaled * trailBps * Decimal.scale := by
    rw [hfactor, Int.mul_assoc]
  have hmovedNonneg : 0 ≤ reference.scaled * trailBps :=
    Int.mul_nonneg (Int.le_of_lt hreference) (Int.natCast_nonneg _)
  have hmovedFits : reference.scaled * trailBps * Decimal.scale ≤ i128Max := by
    rw [Int.mul_assoc]
    exact hfits
  obtain ⟨scaled, hscaled, hmoved⟩ := @Decimal.checkedMul_ok reference bps
    (by rw [hsplit]; exact Int.mul_nonneg hmovedNonneg (by decide))
    (by rw [hsplit]; exact hmovedFits)
  have hmovedEq : scaled.scaled = reference.scaled * trailBps := by
    rw [hmoved, hsplit]
    exact Int.mul_ediv_cancel _ (by decide)
  obtain ⟨distance, hdistance, htrail⟩ := @Decimal.checkedDiv_ok scaled
    tenThousand (by omega) (by omega) (by rw [hmovedEq]; exact hmovedFits)
  have htrailEq : distance.scaled = trail trailBps reference := by
    rw [htrail, hmovedEq, hdivisor, trail]
    exact Int.mul_ediv_mul_of_pos_left _ _ (by decide)
  have hnonneg := @trail_nonneg trailBps reference hreference
  have hle := @trail_le trailBps reference hreference hbps.2
  have hsmall : 2 * reference.scaled ≤ i128Max := by
    have hone : reference.scaled * 1 ≤ reference.scaled * trailBps :=
      Int.mul_le_mul_of_nonneg_left (by omega) (Int.le_of_lt hreference)
    rw [hscale] at hmovedFits
    omega
  simp only [trailingPrice, bind_eq_ok]
  cases side with
  | sell =>
    obtain ⟨price, hprice⟩ := Decimal.checked_ok
      "decimal subtraction overflow"
      (by omega : i128Min ≤ reference.scaled - distance.scaled) (by omega)
    exact ⟨price, bps, hbpsOk, scaled, hscaled, tenThousand, hten, distance,
      hdistance, hprice⟩
  | buy =>
    obtain ⟨price, hprice⟩ := Decimal.checked_ok
      "decimal addition overflow"
      (by omega : i128Min ≤ reference.scaled + distance.scaled) (by omega)
    exact ⟨price, bps, hbpsOk, scaled, hscaled, tenThousand, hten, distance,
      hdistance, hprice⟩

theorem trail_mono (h : a.scaled ≤ b.scaled) : trail trailBps a ≤ trail trailBps b := by
  apply Int.ediv_le_ediv (by decide)
  exact Int.mul_le_mul_of_nonneg_right h (Int.natCast_nonneg _)

theorem sub_trail_mono (hbps : trailBps < 10000) (h : a.scaled ≤ b.scaled) :
    a.scaled - trail trailBps a ≤ b.scaled - trail trailBps b := by
  have hgap : (b.scaled - a.scaled) * trailBps ≤ (b.scaled - a.scaled) * 10000 :=
    Int.mul_le_mul_of_nonneg_left (by omega) (by omega)
  rw [Int.sub_mul] at hgap
  unfold trail
  omega

theorem trailingPrice_mono {p q : Decimal} (hbps : trailBps < 10000)
    (ha : 0 < a.scaled) (hb : 0 < b.scaled) (hp : trailingPrice side trailBps a = .ok p)
    (hq : trailingPrice side trailBps b = .ok q)
    (h : moreFavorable side a b = b) : NotLooser side p q := by
  have hpscaled := (trailingPrice_eq_ok ha hp).2
  have hqscaled := (trailingPrice_eq_ok hb hq).2
  cases side with
  | sell =>
    have hle : a.scaled ≤ b.scaled := by
      simp only [moreFavorable, Decimal.max] at h
      split at h
      · next hlt => exact Int.le_of_lt hlt
      · rw [h]
    change p.scaled ≤ q.scaled
    rw [hpscaled, hqscaled]
    exact sub_trail_mono hbps hle
  | buy =>
    have hle : b.scaled ≤ a.scaled := by
      simp only [moreFavorable, Decimal.min] at h
      split at h
      · next hlt => exact Int.le_of_lt hlt
      · rw [h]
    change q.scaled ≤ p.scaled
    rw [hpscaled, hqscaled]
    exact Int.add_le_add hle (trail_mono hle)

/-! ## One update -/

structure Follows (stop : TrailingStop) (best : Decimal) : Prop where
  bps : 1 ≤ stop.trailBps ∧ stop.trailBps < 10000
  positive : 0 < best.scaled
  reference : stop.favorableReference = best
  price : trailingPrice stop.side stop.trailBps best = .ok stop.stopPrice

theorem new_follows {initialMark : Decimal}
    (h : new side trailBps initialMark = .ok stop) :
    stop.side = side ∧ stop.trailBps = trailBps
      ∧ stop.Follows initialMark := by
  simp only [new, bind_eq_ok, refuseIf_eq_ok, not_or, not_not, le_def,
    scaled_zero, Int.not_le] at h
  obtain ⟨-, ⟨hbps, hmark⟩, stopPrice, hprice, hstop⟩ := h
  obtain rfl := Except.ok.inj hstop
  exact ⟨rfl, rfl, hbps, hmark, rfl, hprice⟩

theorem update_cases (stop : TrailingStop) (mark : Decimal) :
    (mark.scaled ≤ 0 ∧ stop.accepts mark = false ∧ (stop.update mark).2 = stop) ∨
      (0 < mark.scaled ∧ stop.favorable mark = false
        ∧ stop.update mark = (.ok stop.stopPrice, stop)) ∨
      (0 < mark.scaled ∧ stop.favorable mark = true
        ∧ ∃ price, trailingPrice stop.side stop.trailBps mark = .ok price
          ∧ stop.update mark = (.ok price,
            { stop with favorableReference := mark, stopPrice := price })) ∨
      (0 < mark.scaled ∧ stop.favorable mark = true
        ∧ ∃ error, trailingPrice stop.side stop.trailBps mark = .error error
          ∧ stop.update mark = (.error error,
            { stop with favorableReference := mark })) := by
  by_cases hmark : mark ≤ Decimal.zero
  · have hupdate : stop.update mark
        = (.error ⟨"trailing-stop mark must be positive"⟩, stop) :=
      if_pos hmark
    left
    rw [accepts, hupdate]
    exact ⟨hmark, rfl, rfl⟩
  · have hpositive : 0 < mark.scaled := Int.not_le.mp hmark
    right
    cases hfavorable : stop.favorable mark with
    | false =>
      have hupdate : stop.update mark = (.ok stop.stopPrice, stop) := by
        rw [update, if_neg hmark, hfavorable]
        rfl
      exact .inl ⟨hpositive, rfl, hupdate⟩
    | true =>
      have hupdate : stop.update mark
          = assignStopPrice { stop with favorableReference := mark }
            (trailingPrice stop.side stop.trailBps mark) := by
        rw [update, if_neg hmark, hfavorable, if_pos rfl]
      rw [hupdate]
      cases hprice : trailingPrice stop.side stop.trailBps mark with
      | ok price => exact .inr (.inl ⟨hpositive, rfl, price, rfl, rfl⟩)
      | error error => exact .inr (.inr ⟨hpositive, rfl, error, rfl, rfl⟩)

theorem Follows.fits_of_favorable (h : stop.Follows best)
    (hfavorable : stop.favorable mark = true)
    (hfits : stop.side = .sell → Fits stop.trailBps mark) : Fits stop.trailBps mark := by
  cases hside : stop.side with
  | sell => exact hfits hside
  | buy =>
    have hlt : mark.scaled < best.scaled := by
      rw [favorable, hside, h.reference] at hfavorable
      exact of_decide_eq_true hfavorable
    have hbest := (trailingPrice_eq_ok h.positive h.price).1
    refine Int.le_trans (Int.mul_le_mul_of_nonneg_right (Int.le_of_lt hlt) ?_) hbest
    exact Int.mul_nonneg (Int.natCast_nonneg _) (by decide)

theorem moreFavorable_of_favorable (hreference : stop.favorableReference = best) :
    moreFavorable stop.side best mark
      = if stop.favorable mark then mark else best := by
  cases hside : stop.side with
  | sell => simp [moreFavorable, Decimal.max, favorable, hside, hreference]
  | buy => simp [moreFavorable, Decimal.min, favorable, hside, hreference]

/-- The step lemma: an update whose mark fits keeps the stop at the best mark,
does not loosen it, and changes nothing when it fails. -/
theorem Follows.update (h : stop.Follows best)
    (hfits : stop.side = .sell → Fits stop.trailBps mark) : (stop.update mark).2.Follows
        (if stop.accepts mark then moreFavorable stop.side best mark else best)
      ∧ NotLooser stop.side stop.stopPrice (stop.update mark).2.stopPrice
      ∧ (stop.accepts mark = false → (stop.update mark).2 = stop)
      ∧ (∀ price, (stop.update mark).1 = .ok price →
        (stop.update mark).2.stopPrice = price) := by
  have hsame : NotLooser stop.side stop.stopPrice stop.stopPrice := by
    cases stop.side <;> exact Int.le_refl _
  rw [moreFavorable_of_favorable h.reference]
  obtain ⟨-, hrefused, hstop⟩ | ⟨-, hunfavorable, hupdate⟩ |
    ⟨hmark, hfavorable, price, hprice, hupdate⟩ |
    ⟨hmark, hfavorable, error, hprice, -⟩ := update_cases stop mark
  · rw [hrefused, hstop]
    refine ⟨h, hsame, fun _ => rfl, ?_⟩
    intro price hprice
    simp [accepts, hprice, Except.isOk, Except.toBool] at hrefused
  · have haccepts : stop.accepts mark = true := by
      rw [accepts, hupdate]
      rfl
    rw [haccepts, hunfavorable, hupdate]
    exact ⟨h, hsame, fun _ => rfl, fun _ heq => Except.ok.inj heq⟩
  · have haccepts : stop.accepts mark = true := by
      rw [accepts, hupdate]
      rfl
    have hmore : moreFavorable stop.side best mark = mark := by
      rw [moreFavorable_of_favorable h.reference, hfavorable, if_pos rfl]
    rw [haccepts, hfavorable, hupdate]
    exact ⟨⟨h.bps, hmark, rfl, hprice⟩,
      trailingPrice_mono h.bps.2 h.positive hmark h.price hprice hmore,
      fun hfalse => Bool.noConfusion hfalse, fun _ heq => Except.ok.inj heq⟩
  · obtain ⟨price, hok⟩ := @trailingPrice_ok stop.side stop.trailBps mark hmark
      h.bps (h.fits_of_favorable hfavorable hfits)
    rw [hok] at hprice
    contradiction

theorem update_side (stop : TrailingStop) (mark : Decimal) :
    (stop.update mark).2.side = stop.side := by
  obtain ⟨-, -, hstop⟩ | ⟨-, -, hupdate⟩ | ⟨-, -, price, -, hupdate⟩ |
    ⟨-, -, error, -, hupdate⟩ := update_cases stop mark
  · rw [hstop]
  all_goals rw [hupdate]

theorem update_trailBps (stop : TrailingStop) (mark : Decimal) :
    (stop.update mark).2.trailBps = stop.trailBps := by
  obtain ⟨-, -, hstop⟩ | ⟨-, -, hupdate⟩ | ⟨-, -, price, -, hupdate⟩ |
    ⟨-, -, error, -, hupdate⟩ := update_cases stop mark
  · rw [hstop]
  all_goals rw [hupdate]

theorem Follows.fits_of_unchanged (h : stop.Follows best)
    (hunchanged : stop.accepts mark = false → (stop.update mark).2 = stop)
    (hside : stop.side = .sell) : Fits stop.trailBps mark := by
  have hbest := (trailingPrice_eq_ok h.positive h.price).1
  have hfactor : 0 ≤ (stop.trailBps : Int) * Decimal.scale :=
    Int.mul_nonneg (Int.natCast_nonneg _) (by decide)
  by_cases hlow : mark.scaled ≤ best.scaled
  · exact Int.le_trans (Int.mul_le_mul_of_nonneg_right hlow hfactor) hbest
  · have hfavorable : stop.favorable mark = true := by
      rw [favorable, hside, h.reference]
      exact decide_eq_true (Int.not_le.mp hlow)
    obtain ⟨hnonpositive, -, -⟩ | ⟨-, hunfavorable, -⟩ |
      ⟨hmark, -, price, hprice, -⟩ | ⟨hmark, -, error, -, hupdate⟩ :=
        update_cases stop mark
    · have := h.positive
      omega
    · rw [hfavorable] at hunfavorable
      contradiction
    · exact (trailingPrice_eq_ok hmark hprice).1
    · have hrefused : stop.accepts mark = false := by
        rw [accepts, hupdate]
        rfl
      have hsame := hunchanged hrefused
      rw [hupdate] at hsame
      have hmoved : mark = stop.favorableReference := congrArg favorableReference hsame
      rw [hmoved, h.reference] at hlow
      exact absurd (Int.le_refl _) hlow

/-! ## Runs -/

theorem Follows.after (h : stop.Follows best)
    (hfits : stop.side = .sell → ∀ mark ∈ marks, Fits stop.trailBps mark) :
    (stop.after marks).Follows (stop.bestAccepted best marks)
      ∧ (stop.after marks).side = stop.side
      ∧ (stop.after marks).trailBps = stop.trailBps := by
  induction marks generalizing stop best with
  | nil => exact ⟨h, rfl, rfl⟩
  | cons mark rest ih =>
    have hnext := (h.update fun hside =>
      hfits hside mark mem_cons_self).1
    have hrest := ih hnext (by
      rw [update_side, update_trailBps]
      exact fun hside other hother =>
        hfits hside other (mem_cons_of_mem _ hother))
    rw [update_side, update_trailBps] at hrest
    exact hrest

def firstReached (stop : TrailingStop) (best : Decimal) : List Decimal → Option Decimal
  | [] => none
  | mark :: rest =>
    let best :=
      if stop.accepts mark then moreFavorable stop.side best mark else best
    if stop.accepts mark = true ∧ reaches stop.side mark
        (trailingPrice stop.side stop.trailBps best) = true then
      some mark
    else
      firstReached (stop.update mark).2 best rest

theorem Follows.reaches (h : stop.Follows best)
    (hfits : stop.side = .sell → Fits stop.trailBps mark) :
    reaches stop.side mark (stop.update mark).1 = true ↔
      stop.accepts mark = true ∧ reaches stop.side mark
        (trailingPrice stop.side stop.trailBps
          (if stop.accepts mark then moreFavorable stop.side best mark
            else best)) = true := by
  obtain ⟨hnext, -, -, hreturned⟩ := h.update hfits
  have hprice := hnext.price
  rw [update_side, update_trailBps] at hprice
  rw [hprice]
  cases hresult : (stop.update mark).1 with
  | ok price =>
    have haccepts : stop.accepts mark = true := by
      rw [accepts, hresult]
      rfl
    rw [hreturned price hresult, haccepts]
    exact (and_iff_right rfl).symm
  | error error =>
    have hrefused : stop.accepts mark = false := by
      rw [accepts, hresult]
      rfl
    rw [hrefused]
    simp [TrailingStop.reaches]

theorem Follows.trigger (h : stop.Follows best)
    (hfits : stop.side = .sell → ∀ mark ∈ marks, Fits stop.trailBps mark) :
    stop.trigger marks = stop.firstReached best marks := by
  induction marks generalizing stop best with
  | nil => rfl
  | cons mark rest ih =>
    have hmark : stop.side = .sell → Fits stop.trailBps mark :=
      fun hside => hfits hside mark mem_cons_self
    have hrest := ih (h.update hmark).1 (by
      rw [update_side, update_trailBps]
      exact fun hside other hother =>
        hfits hside other (mem_cons_of_mem _ hother))
    rw [TrailingStop.trigger, firstReached, hrest]
    exact if_congr (h.reaches hmark) rfl rfl

/-- In every state of the run the stop price is the trailing price of the most
favourable mark accepted so far, no update loosens it, it is reached first by
the mark that should reach it, and a failed update changes nothing. -/
structure FollowsBest (stop : TrailingStop) (initialMark : Decimal)
    (marks : List Decimal) : Prop where
  follows : ∀ done, done <+: marks →
    trailingPrice stop.side stop.trailBps (stop.bestAccepted initialMark done)
      = .ok (stop.after done).stopPrice
  neverLoosens : ∀ done mark, done ++ [mark] <+: marks →
    NotLooser stop.side (stop.after done).stopPrice
      (stop.after (done ++ [mark])).stopPrice
  triggers : stop.trigger marks = stop.firstReached initialMark marks
  failed : ∀ done mark, done ++ [mark] <+: marks →
    (stop.after done).accepts mark = false →
      ((stop.after done).update mark).2 = stop.after done

theorem Follows.followsBest (h : stop.Follows best)
    (hfits : stop.side = .sell → ∀ mark ∈ marks, Fits stop.trailBps mark) :
    stop.FollowsBest best marks := by
  have hdone : ∀ done, done <+: marks →
      (stop.after done).Follows (stop.bestAccepted best done)
        ∧ (stop.after done).side = stop.side
        ∧ (stop.after done).trailBps = stop.trailBps :=
    fun done hbegins => h.after fun hside mark hmark =>
      hfits hside mark (hbegins.subset hmark)
  have hstep : ∀ done mark, done ++ [mark] <+: marks →
      NotLooser (stop.after done).side (stop.after done).stopPrice
          ((stop.after done).update mark).2.stopPrice
        ∧ ((stop.after done).accepts mark = false →
          ((stop.after done).update mark).2 = stop.after done) := by
    intro done mark hbegins
    obtain ⟨hfollows, hside, hbps⟩ :=
      hdone done ((List.prefix_append done [mark]).trans hbegins)
    obtain ⟨-, hlooser, hfailed, -⟩ := hfollows.update (by
      rw [hside, hbps]
      exact fun hsell => hfits hsell mark (hbegins.subset (by simp)))
    exact ⟨hlooser, hfailed⟩
  refine ⟨?_, ?_, h.trigger hfits, fun done mark hbegins =>
    (hstep done mark hbegins).2⟩
  · intro done hbegins
    obtain ⟨hfollows, hside, hbps⟩ := hdone done hbegins
    rw [← hside, ← hbps]
    exact hfollows.price
  · intro done mark hbegins
    have hlooser := (hstep done mark hbegins).1
    rw [(hdone done ((List.prefix_append done [mark]).trans hbegins)).2.1]
      at hlooser
    rw [after_append]
    exact hlooser

theorem Follows.fits_of_failed (h : stop.Follows best) (hside : stop.side = .sell)
    (hfailed : ∀ done mark, done ++ [mark] <+: marks →
      (stop.after done).accepts mark = false →
        ((stop.after done).update mark).2 = stop.after done) :
    ∀ mark ∈ marks, Fits stop.trailBps mark := by
  induction marks using List.reverseRecOn with
  | nil => exact fun mark hmark => absurd hmark not_mem_nil
  | append_singleton done mark ih =>
    have hdone := ih fun earlier other hbegins =>
      hfailed earlier other (hbegins.trans (List.prefix_append done [mark]))
    obtain ⟨hfollows, hsame, hbps⟩ := h.after fun _ => hdone
    have hlast := hfollows.fits_of_unchanged
      (hfailed done mark List.prefix_rfl) (hsame.trans hside)
    rw [hbps] at hlast
    intro other hother
    rcases mem_append.mp hother with hearlier | hnew
    · exact hdone other hearlier
    · rw [mem_singleton.mp hnew]
      exact hlast

/-- A trailing stop follows the best mark through a whole run exactly when no
mark of a sell stop is too large for its trailing price to be computed. -/
theorem followsBest_iff {side : Side} {trailBps : Nat} {initialMark : Decimal}
    {stop : TrailingStop} (hnew : new side trailBps initialMark = .ok stop)
    (marks : List Decimal) : stop.FollowsBest initialMark marks ↔
      (side = .sell → ∀ mark ∈ marks, Fits trailBps mark) := by
  obtain ⟨hside, hbps, hfollows⟩ := new_follows hnew
  rw [← hside, ← hbps]
  constructor
  · intro hbest hsell
    exact hfollows.fits_of_failed hsell hbest.failed
  · exact hfollows.followsBest

namespace OverflowRun

def longStop : TrailingStop :=
  ⟨.sell, 100, .hundred,
    ⟨9900000000, by decide, by decide⟩⟩

def tooLarge : Decimal := .greatest

theorem longStop_new :
    new .sell 100 ⟨10000000000, by decide, by decide⟩ = .ok longStop := by
  decide

theorem longStop_followsBest_iff :
    longStop.FollowsBest ⟨10000000000, by decide, by decide⟩
        [⟨11000000000, by decide, by decide⟩] ↔
      (Side.sell = .sell → ∀ mark ∈ [(⟨11000000000, by decide, by decide⟩ :
        Decimal)], Fits 100 mark) :=
  followsBest_iff longStop_new [⟨11000000000, by decide, by decide⟩]

/-- A mark too large to trail is refused but stays as the reference. -/
theorem failed_update_moves_reference :
    ¬∀ (side : Side) (trailBps : Nat) (initialMark : Decimal)
        (stop : TrailingStop) (marks : List Decimal),
      new side trailBps initialMark = .ok stop →
        stop.FollowsBest initialMark marks := by
  intro h
  have hbest := h _ _ _ _ [tooLarge] longStop_new
  have hsame := hbest.failed [] tooLarge List.prefix_rfl (by decide)
  revert hsame
  decide

end OverflowRun

end TrailingStop
end Follon.Execution
