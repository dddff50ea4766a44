import Follon.MarketData.Bars
import Mathlib.Algebra.Order.BigOperators.Group.List

/-!
# Bars without loss

The bars of a list of trades hold each trade once, whatever order the trades
came in.
-/

namespace Follon.MarketData

open Foundation Domain

/-! ## Grouping -/

namespace BarBuilder

def keyOf (builder : BarBuilder) (trade : Trade) : BucketKey :=
  (builder.bucket (instantOf trade.eventTime), trade.instrumentId)

theorem parseUtc_ok {value : String} (h : isUtcTimestamp value = true) :
    parseUtc value = .ok (instantOf value) := by
  unfold MarketData.parseUtc
  rw [bind_eq_ok]
  exact ⟨(), validateUtcTimestamp_eq_ok.mpr h,
    by rw [parseUtc_eq_instantOf h]⟩

structure Gathers (builder : BarBuilder) (seen : List Trade)
    (grouping : Grouping) : Prop where
  grouped : OrderedMap.Groups builder.keyOf seen grouping.grouped
  tradeIds : ∀ tradeId, tradeId ∈ grouping.tradeIds ↔ tradeId ∈ seen.map Trade.tradeId
  sequences : ∀ key, key ∈ grouping.sourceSequences ↔
    key ∈ seen.map fun trade => (trade.instrumentId, trade.sourceSequence)

theorem Gathers.groupTrade {builder : BarBuilder} {seen : List Trade}
    {grouping : Grouping} (h : Gathers builder seen grouping) {trade : Trade}
    (hdistinct : Distinct (seen ++ [trade])) :
    ∃ grouping', builder.groupTrade grouping trade = .ok grouping' ∧
      Gathers builder (seen ++ [trade]) grouping' := by
  have hvalid := hdistinct.valid trade (by simp)
  have htrade := Trade.validate_eq_ok_iff.mp hvalid
  have hid : trade.tradeId ∉ grouping.tradeIds := by
    rw [h.tradeIds]
    have hids := hdistinct.ids
    rw [map_append, List.nodup_append] at hids
    intro hin
    exact hids.2.2 _ hin _ (by simp) rfl
  have hsequence : (trade.instrumentId, trade.sourceSequence) ∉
      grouping.sourceSequences := by
    rw [h.sequences]
    have hsequences := hdistinct.sequences
    rw [map_append, List.nodup_append] at hsequences
    intro hin
    exact hsequences.2.2 _ hin _ (by simp) rfl
  refine ⟨{
      grouped := OrderedMap.push grouping.grouped (builder.keyOf trade) trade
      tradeIds := grouping.tradeIds.insert trade.tradeId
      sourceSequences := grouping.sourceSequences.insert
        (trade.instrumentId, trade.sourceSequence) }, ?_, ?_⟩
  · unfold BarBuilder.groupTrade
    rw [hvalid, refuseIf_of_not hid, refuseIf_of_not hsequence,
      parseUtc_ok htrade.eventTime]
    rfl
  · refine ⟨h.grouped.push trade, ?_, ?_⟩
    · intro tradeId
      rw [mem_insert, Std.LawfulEqOrd.compare_eq_iff_eq,
        h.tradeIds, map_append, mem_append, or_comm]
      simp [eq_comm]
    · intro key
      rw [mem_insert, Std.LawfulEqOrd.compare_eq_iff_eq,
        h.sequences, map_append, mem_append, or_comm]
      simp [eq_comm]

theorem exists_grouping (builder : BarBuilder) {trades : List Trade}
    (h : Distinct trades) :
    ∃ grouping, trades.foldlM builder.groupTrade ⟨∅, ∅, ∅⟩ = .ok grouping ∧
      OrderedMap.Groups builder.keyOf trades grouping.grouped := by
  have hall : ∀ (seen : List Trade) (grouping : Grouping),
      Gathers builder seen grouping → Distinct (seen ++ trades) →
        ∃ grouping', trades.foldlM builder.groupTrade grouping
            = .ok grouping' ∧ Gathers builder (seen ++ trades) grouping' := by
    clear h
    induction trades with
    | nil =>
      intro seen grouping h hdistinct
      exact ⟨grouping, rfl, by rwa [append_nil]⟩
    | cons trade trades ih =>
      intro seen grouping h hdistinct
      rw [List.append_cons] at hdistinct ⊢
      obtain ⟨grouping', hstep, hgathers⟩ := h.groupTrade
        (hdistinct.sublist (List.sublist_append_left _ _))
      obtain ⟨grouping'', hrest, hall⟩ := ih (seen ++ [trade]) grouping'
        hgathers hdistinct
      exact ⟨grouping'', by rw [foldlM_cons, hstep]; exact hrest, hall⟩
  obtain ⟨grouping, hgrouping, hgathers⟩ := hall [] ⟨∅, ∅, ∅⟩
    ⟨OrderedMap.groups_nil _, by simp, by simp⟩ h
  exact ⟨grouping, hgrouping, hgathers.grouped⟩

/-! ## Any order of the trades -/

theorem collect_comp {α β γ : Type} (convert : β → Result γ) (image : α → β)
    (items : List α) : collect (fun item => convert (image item)) items
      = collect convert (items.map image) := by
  induction items with
  | nil => rfl
  | cons item items ih => simp only [collect, map_cons, ih]

variable {trades' : List Trade}

theorem ordered_groups_eq {builder : BarBuilder} {trades : List Trade}
    (h : Distinct trades) (hperm : trades'.Perm trades)
    {map map' : OrderedMap BucketKey (List Trade)}
    (hmap : OrderedMap.Groups builder.keyOf trades map)
    (hmap' : OrderedMap.Groups builder.keyOf trades' map') :
    map'.map (fun _ group => group.insertionSort tradeLe)
      = map.map fun _ group => group.insertionSort tradeLe := by
  apply ext_getElem?
  intro key
  rw [Std.ExtTreeMap.getElem?_map, Std.ExtTreeMap.getElem?_map]
  have hfilter := hperm.filter fun trade => builder.keyOf trade = key
  have hsort := insertionSort_perm
    (h.sublist (List.filter_sublist (p := fun trade =>
      decide (builder.keyOf trade = key)))) hfilter
  cases hfound : map[key]? with
  | none =>
    have hnone : trades.filter (fun trade => builder.keyOf trade = key)
        = [] := by
      rw [← (hmap key).1, hfound]
      rfl
    rw [hnone, List.perm_nil] at hfilter
    cases hfound' : map'[key]? with
    | none => rfl
    | some group =>
      have hgroup := hmap'.getElem?_eq_some.mp hfound'
      exact absurd (hgroup.2.trans hfilter) hgroup.1
  | some group =>
    have hgroup := hmap.getElem?_eq_some.mp hfound
    have hsome : trades'.filter (fun trade => builder.keyOf trade = key)
        ≠ [] := by
      intro hnil
      rw [hnil, List.nil_perm] at hfilter
      exact hgroup.1 (hgroup.2.trans hfilter)
    rw [hmap'.getElem?_eq_some.mpr ⟨hsome, rfl⟩, Option.map_some,
      Option.map_some, hsort, hgroup.2]

theorem build_perm (builder : BarBuilder) {trades : List Trade}
    (h : Distinct trades) (hperm : trades'.Perm trades) :
    builder.build trades' = builder.build trades := by
  obtain ⟨grouping, hgrouping, hgroups⟩ := builder.exists_grouping h
  obtain ⟨grouping', hgrouping', hgroups'⟩ :=
    builder.exists_grouping (h.perm hperm)
  have hcollect : ∀ map : OrderedMap BucketKey (List Trade),
      collect builder.barOf map.toList
        = collect (fun entry => builder.barOfOrdered entry.1 entry.2)
          (map.map fun _ group => group.insertionSort tradeLe).toList := by
    intro map
    rw [Std.ExtTreeMap.toList_map, ← collect_comp]
    rfl
  unfold build
  rw [hgrouping, hgrouping']
  change collect builder.barOf grouping'.grouped.toList
    = collect builder.barOf grouping.grouped.toList
  rw [hcollect, hcollect, ordered_groups_eq h hperm hgroups hgroups']

end BarBuilder

/-! ## One bar -/

structure Absorbs (start : Extremes) (seen : List Trade) (extremes : Extremes) :
    Prop where
  volume : extremes.volume.scaled
    = start.volume.scaled + (seen.map fun trade => trade.quantity.scaled).sum
  highest : start.high ≤ extremes.high ∧ ∀ trade ∈ seen, trade.price ≤ extremes.high
  high : extremes.high = start.high ∨ ∃ trade ∈ seen, extremes.high = trade.price
  lowest : extremes.low ≤ start.low ∧ ∀ trade ∈ seen, extremes.low ≤ trade.price
  low : extremes.low = start.low ∨ ∃ trade ∈ seen, extremes.low = trade.price

variable {start extremes : Extremes} {time : String}

theorem Absorbs.absorb {extremes' : Extremes} {seen : List Trade}
    {trade : Trade} (h : Absorbs start seen extremes)
    (habsorb : extremes.absorb trade = .ok extremes') :
    Absorbs start (seen ++ [trade]) extremes' := by
  unfold Extremes.absorb at habsorb
  simp only [bind_eq_ok, checkedAdd_eq_ok] at habsorb
  obtain ⟨volume, hvolume, hsame⟩ := habsorb
  obtain rfl := Except.ok.inj hsame
  have hhigh : extremes.high ≤ extremes.high.max trade.price ∧
      trade.price ≤ extremes.high.max trade.price := by
    unfold Decimal.max
    simp only [lt_def, le_def]
    split <;> omega
  have hlow : extremes.low.min trade.price ≤ extremes.low ∧
      extremes.low.min trade.price ≤ trade.price := by
    unfold Decimal.min
    simp only [lt_def, le_def]
    split <;> omega
  have hle : ∀ {a b c : Decimal}, a ≤ b → b ≤ c → a ≤ c :=
    fun hab hbc => Int.le_trans hab hbc
  refine ⟨?_, ⟨hle h.highest.1 hhigh.1, ?_⟩, ?_, ⟨hle hlow.1 h.lowest.1, ?_⟩, ?_⟩
  · simp [hvolume, h.volume, Int.add_assoc]
  · intro trade' htrade'
    rw [mem_append, mem_singleton] at htrade'
    cases htrade' with
    | inl hold => exact hle (h.highest.2 trade' hold) hhigh.1
    | inr heq => exact heq ▸ hhigh.2
  · dsimp only
    unfold Decimal.max
    split
    · exact .inr ⟨trade, by simp, rfl⟩
    · cases h.high with
      | inl hsame => exact .inl hsame
      | inr hsome =>
        obtain ⟨trade', hin, hprice⟩ := hsome
        exact .inr ⟨trade', mem_append_left _ hin, hprice⟩
  · intro trade' htrade'
    rw [mem_append, mem_singleton] at htrade'
    cases htrade' with
    | inl hold => exact hle hlow.1 (h.lowest.2 trade' hold)
    | inr heq => exact heq ▸ hlow.2
  · dsimp only
    unfold Decimal.min
    split
    · exact .inr ⟨trade, by simp, rfl⟩
    · cases h.low with
      | inl hsame => exact .inl hsame
      | inr hsome =>
        obtain ⟨trade', hin, hprice⟩ := hsome
        exact .inr ⟨trade', mem_append_left _ hin, hprice⟩

theorem absorbs_of_foldlM {trades : List Trade}
    (h : trades.foldlM Extremes.absorb start = .ok extremes) :
    Absorbs start trades extremes := by
  have hstart : Absorbs start [] start :=
    ⟨by simp, ⟨Int.le_refl _, by simp⟩, .inl rfl, ⟨Int.le_refl _, by simp⟩,
      .inl rfl⟩
  have := foldlM_over (R := Absorbs start)
    (fun _ _ _ _ hseen hstep => hseen.absorb hstep) hstart h
  exact this

theorem exists_foldlM_absorb {trades : List Trade}
    (hquantity : ∀ trade ∈ trades, Decimal.zero < trade.quantity)
    {start : Extremes} (hstart : 0 ≤ start.volume.scaled) (hfits : start.volume.scaled
      + (trades.map fun trade => trade.quantity.scaled).sum ≤ i128Max) :
    ∃ extremes, trades.foldlM Extremes.absorb start = .ok extremes := by
  induction trades generalizing start with
  | nil => exact ⟨start, rfl⟩
  | cons trade trades ih =>
    rw [forall_mem_cons] at hquantity
    rw [map_cons, sum_cons, ← Int.add_assoc] at hfits
    have hpositive : 0 < trade.quantity.scaled := hquantity.1
    have hrest : 0 ≤ (trades.map fun trade => trade.quantity.scaled).sum := by
      apply List.sum_nonneg
      intro quantity hin
      rw [mem_map] at hin
      obtain ⟨trade', htrade', rfl⟩ := hin
      exact Int.le_of_lt (hquantity.2 trade' htrade')
    obtain ⟨volume, hvolume⟩ := Decimal.checked_ok
      "decimal addition overflow"
      (show i128Min ≤ start.volume.scaled + trade.quantity.scaled by
        have : i128Min ≤ 0 := by decide
        omega)
      (show start.volume.scaled + trade.quantity.scaled ≤ i128Max by omega)
    have hscaled := checked_eq_ok.mp hvolume
    have hstep : start.absorb trade = .ok
        { high := start.high.max trade.price, low := start.low.min trade.price
          volume } := by
      unfold Extremes.absorb
      rw [checkedAdd_eq_ok.mpr hscaled]
      rfl
    rw [foldlM_cons, hstep]
    apply ih hquantity.2
    · change 0 ≤ volume.scaled
      omega
    · change volume.scaled + _ ≤ _
      omega

structure Summarizes (trades : List Trade) (bar : Bar) : Prop where
  volume : bar.volume.scaled
    = (trades.map fun trade => trade.quantity.scaled).sum
  high : (∀ trade ∈ trades, trade.price ≤ bar.high) ∧
    ∃ trade ∈ trades, bar.high = trade.price
  low : (∀ trade ∈ trades, bar.low ≤ trade.price) ∧
    ∃ trade ∈ trades, bar.low = trade.price
  open_ : ∃ first ∈ trades, bar.open_ = first.price ∧
    ∀ trade ∈ trades, trade = first ∨ first.Precedes trade
  close : ∃ last ∈ trades, bar.close = last.price ∧
    ∀ trade ∈ trades, trade = last ∨ trade.Precedes last

/-! ## The time of a bar -/

theorem isUtcTimestamp_of_parseUtc {value : String} {instant : Int}
    (h : Domain.parseUtc value = some instant) : isUtcTimestamp value = true := by
  unfold isUtcTimestamp
  rw [(CivilTime.instant_of_parseUtc h).1, h]
  rfl

theorem formatTimestamp_eq_ok {bucket : Int} (h : formatTimestamp bucket = .ok time) :
    isUtcTimestamp time = true ∧ unixTimestamp (instantOf time) = bucket := by
  unfold formatTimestamp at h
  split at h
  · next hbounds =>
      have hparse := parseUtc_formatUtc hbounds.2
      rw [Except.ok.inj h] at hparse
      refine ⟨isUtcTimestamp_of_parseUtc hparse, ?_⟩
      unfold unixTimestamp instantOf
      rw [hparse, getD_some,
        Int.mul_ediv_cancel _ (by decide), Int.toNat_of_nonneg hbounds.1]
      omega
  · contradiction

theorem instantOf_bounds (h : isUtcTimestamp time = true) : 0 ≤ instantOf time ∧
      instantOf time / 1000000000 < (daysBefore 10000 1 * 86400 : Nat) := by
  obtain ⟨hshape, hdate, hinstant⟩ :=
    CivilTime.instant_of_parseUtc (parseUtc_eq_instantOf h)
  have hyear : (CivilTime.ofChars time.toList).year < 10000 := by
    have hfield := (CivilTime.shaped_of_hasCanonicalShape hshape).year
    have hvalue := CivilTime.digitsValue_lt_pow hfield.digits
    rw [hfield.length] at hvalue
    exact hvalue
  have hdays : (CivilTime.ofChars time.toList).days < daysBefore 10000 1 := by
    have hyears := CivilTime.daysBefore_year_mono
      (Nat.succ_le_of_lt hyear)
    rw [Nat.succ_eq_add_one, CivilTime.daysBefore_succ_year] at hyears
    have hmonth := hdate.month
    have hday := hdate.day
    have hlast := @CivilTime.daysBefore_month_mono
      (CivilTime.ofChars time.toList).year
      ((CivilTime.ofChars time.toList).month + 1) 13 (by omega) (by omega)
    rw [CivilTime.daysBefore_succ_month hmonth.1] at hlast
    unfold CivilTime.days
    omega
  have hhour := hdate.hour
  have hminute := hdate.minute
  have hsecond := hdate.second
  rw [hinstant]
  unfold CivilTime.instant CivilTime.secondsOf
  generalize daysBefore 10000 1 = limit at *
  split <;> omega

theorem civilYear_lt {days limit : Nat} (h : days < daysBefore limit 1) :
    civilYear days < limit := by
  by_contra hyear
  have hmono := CivilTime.daysBefore_year_mono (Nat.le_of_not_lt hyear)
  have hle := daysBefore_civilYear_le days
  omega

namespace BarBuilder

variable (builder : BarBuilder)

theorem interval_pos : 0 < builder.interval := by
  unfold interval
  have hne := builder.interval_ne_zero
  rw [ne_eq, ← UInt32.toNat_inj, UInt32.toNat_zero] at hne
  omega

def Holds (bar : String × Bar) (trade : Trade) : Prop :=
  bar.2.instrumentId = trade.instrumentId ∧ unixTimestamp (instantOf bar.1)
      ≤ unixTimestamp (instantOf trade.eventTime) ∧
    unixTimestamp (instantOf trade.eventTime)
      < unixTimestamp (instantOf bar.1) + builder.interval

instance (bar : String × Bar) (trade : Trade) : Decidable (builder.Holds bar trade) :=
  inferInstanceAs (Decidable (_ ∧ _ ∧ _))

theorem bucket_eq_iff {quotient instant : Int} :
    builder.bucket instant = quotient * builder.interval ↔
      quotient * builder.interval ≤ unixTimestamp instant ∧ unixTimestamp instant
          < quotient * builder.interval + builder.interval := by
  have hpos := builder.interval_pos
  unfold bucket
  rw [Int.mul_eq_mul_right_iff (ne_of_gt hpos)]
  constructor
  · rintro rfl
    have hle := Int.ediv_mul_le (unixTimestamp instant) (ne_of_gt hpos)
    have hlt := Int.lt_ediv_add_one_mul_self (unixTimestamp instant) hpos
    rw [Int.add_mul, Int.one_mul] at hlt
    exact ⟨hle, hlt⟩
  · rintro ⟨hle, hlt⟩
    apply le_antisymm
    · rw [← Int.lt_add_one_iff, Int.ediv_lt_iff_lt_mul hpos, Int.add_mul, Int.one_mul]
      exact hlt
    · exact (Int.le_ediv_iff_mul_le hpos).mpr hle

variable {bar : String × Bar} {first trade : Trade}

theorem holds_iff (htime : unixTimestamp (instantOf bar.1) = (builder.keyOf first).1)
    (hinstrument : bar.2.instrumentId = (builder.keyOf first).2) :
    builder.Holds bar trade ↔ builder.keyOf trade = builder.keyOf first := by
  unfold Holds
  rw [htime, hinstrument, Prod.ext_iff]
  have hbucket := @builder.bucket_eq_iff
    (unixTimestamp (instantOf first.eventTime) / builder.interval)
    (instantOf trade.eventTime)
  change builder.bucket (instantOf trade.eventTime) = (builder.keyOf first).1
    ↔ _ at hbucket
  rw [show (builder.keyOf trade).1 = builder.bucket (instantOf trade.eventTime)
    from rfl, hbucket]
  constructor
  · rintro ⟨hsame, hbounds⟩
    exact ⟨hbounds, hsame.symm⟩
  · rintro ⟨hbounds, hsame⟩
    exact ⟨hsame.symm, hbounds⟩

structure Fits (trades : List Trade) (trade : Trade) : Prop where
  year : 0 ≤ builder.bucket (instantOf trade.eventTime) + unixEpoch
  volume : ((trades.filter fun other =>
      builder.keyOf other = builder.keyOf trade).map fun other =>
    other.quantity.scaled).sum ≤ i128Max

structure IsGroup (key : BucketKey) (group : List Trade) : Prop where
  distinct : Distinct group
  nonempty : group ≠ []
  key : ∀ trade ∈ group, builder.keyOf trade = key

variable {builder}

variable {key : BucketKey} {group : List Trade}

theorem IsGroup.ends (h : builder.IsGroup key group) :
    ∃ first last, (group.insertionSort tradeLe).head? = some first ∧
      (group.insertionSort tradeLe).getLast? = some last ∧
      (first ∈ group ∧ ∀ trade ∈ group, trade = first ∨ first.Precedes trade) ∧
      last ∈ group ∧ ∀ trade ∈ group, trade = last ∨ trade.Precedes last := by
  have hperm := perm_insertionSort tradeLe group
  have hsorted := pairwise_insertionSort tradeLe group
  have hne : group.insertionSort tradeLe ≠ [] := by
    intro hnil
    rw [hnil] at hperm
    exact h.nonempty (List.nil_perm.mp hperm)
  have hinstrument : ∀ {trade later : Trade}, trade ∈ group → later ∈ group →
      trade.instrumentId = later.instrumentId := by
    intro trade later htrade hlater
    exact congrArg Prod.snd ((h.key trade htrade).trans (h.key later hlater).symm)
  have hfirst := hperm.mem_iff.mp (List.head_mem hne)
  have hlast := hperm.mem_iff.mp (List.getLast_mem hne)
  refine ⟨_, _, List.head?_eq_some_head hne, List.getLast?_eq_some_getLast hne,
    ⟨hfirst, ?_⟩, hlast, ?_⟩
  · intro trade htrade
    have hle : trade = (group.insertionSort tradeLe).head hne ∨
        tradeLe ((group.insertionSort tradeLe).head hne) trade := by
      have hin := hperm.mem_iff.mpr htrade
      generalize hordered : group.insertionSort tradeLe = ordered at *
      cases ordered with
      | nil => exact absurd rfl hne
      | cons first rest =>
        cases mem_cons.mp hin with
        | inl heq => exact .inl heq
        | inr hrest => exact .inr ((pairwise_cons.mp hsorted).1 _ hrest)
    cases hle with
    | inl heq => exact .inl heq
    | inr hle =>
      exact precedes_of_tradeLe h.distinct hfirst htrade
        (hinstrument hfirst htrade) hle
  · intro trade htrade
    have hle : trade = (group.insertionSort tradeLe).getLast hne ∨
        tradeLe trade ((group.insertionSort tradeLe).getLast hne) := by
      have hin := hperm.mem_iff.mpr htrade
      have hsplit := List.dropLast_append_getLast hne
      rw [← hsplit, mem_append, mem_singleton] at hin
      rw [← hsplit, pairwise_append] at hsorted
      cases hin with
      | inl hin => exact .inr (hsorted.2.2 _ hin _ mem_cons_self)
      | inr heq => exact .inl heq
    cases hle with
    | inl heq => exact .inl heq
    | inr hle =>
      have hprecedes := precedes_of_tradeLe h.distinct htrade hlast
        (hinstrument htrade hlast) hle
      exact hprecedes.imp_left Eq.symm

theorem IsGroup.barOf_spec (h : builder.IsGroup key group)
    (hbar : builder.barOf (key, group) = .ok bar) :
    formatTimestamp key.1 = .ok bar.1 ∧ bar.2.instrumentId = key.2 ∧
      Summarizes group bar.2 := by
  have hperm := perm_insertionSort tradeLe group
  obtain ⟨first, last, hhead, hgetLast, hfirst, hlast⟩ := h.ends
  unfold barOf barOfOrdered at hbar
  dsimp only at hbar
  rw [hhead, hgetLast] at hbar
  simp only [bind_eq_ok] at hbar
  obtain ⟨extremes, hextremes, time, htime, u, hvalid, hsame⟩ := hbar
  obtain rfl := Except.ok.inj hsame
  have habsorbs := absorbs_of_foldlM hextremes
  have hmem : ∀ {trade : Trade}, trade ∈ group.insertionSort tradeLe ↔
      trade ∈ group := hperm.mem_iff
  have hsome : ∀ {price : Decimal},
      (price = first.price ∨ ∃ trade ∈ group.insertionSort tradeLe, price = trade.price) →
          ∃ trade ∈ group, price = trade.price := by
    intro price hcases
    cases hcases with
    | inl hsame => exact ⟨first, hfirst.1, hsame⟩
    | inr hsome =>
      obtain ⟨trade, hin, hprice⟩ := hsome
      exact ⟨trade, hmem.mp hin, hprice⟩
  refine ⟨htime, rfl, ?_, ⟨?_, hsome habsorbs.high⟩, ⟨?_, hsome habsorbs.low⟩, ⟨first, hfirst.1, rfl, hfirst.2⟩,
    ⟨last, hlast.1, rfl, hlast.2⟩⟩
  · have hvolume := habsorbs.volume
    rw [(hperm.map _).sum_eq, scaled_zero, Int.zero_add] at hvolume
    exact hvolume
  · exact fun trade htrade => habsorbs.highest.2 trade (hmem.mpr htrade)
  · exact fun trade htrade => habsorbs.lowest.2 trade (hmem.mpr htrade)

theorem IsGroup.valid (h : builder.IsGroup key group) (htrade : trade ∈ group)
    : trade.IsValid :=
  Trade.validate_eq_ok_iff.mp (h.distinct.valid trade htrade)

theorem IsGroup.volume_nonneg (h : builder.IsGroup key group) :
    0 ≤ (group.map fun trade => trade.quantity.scaled).sum := by
  apply List.sum_nonneg
  intro quantity hin
  rw [mem_map] at hin
  obtain ⟨trade, htrade, rfl⟩ := hin
  exact Int.le_of_lt (h.valid htrade).quantity

theorem IsGroup.formatTimestamp_key (h : builder.IsGroup key group)
    (hyear : 0 ≤ key.1 + unixEpoch) :
    formatTimestamp key.1 = .ok (formatUtc (key.1 + unixEpoch).toNat) := by
  obtain ⟨first, hfirst⟩ := List.exists_mem_of_ne_nil group h.nonempty
  have hbucket : key.1 ≤ unixTimestamp (instantOf first.eventTime) := by
    rw [← h.key first hfirst]
    exact Int.ediv_mul_le _ (ne_of_gt builder.interval_pos)
  have hbounds := instantOf_bounds (h.valid hfirst).eventTime
  have hcivil : civilYear ((key.1 + unixEpoch).toNat / 86400) < 10000 := by
    apply civilYear_lt
    unfold unixTimestamp at hbucket
    generalize daysBefore 10000 1 = limit at *
    omega
  unfold formatTimestamp
  rw [if_pos ⟨hyear, hcivil⟩]

theorem IsGroup.bar_valid {ordered : List Trade}
    (h : builder.IsGroup key group) (hperm : ordered.Perm group) {last : Trade}
    (hfirst : first ∈ group) (hlast : last ∈ group) {extremes : Extremes}
    (habsorbs : Absorbs ⟨first.price, first.price, Decimal.zero⟩ ordered
      extremes) : Bar.validate
      { instrumentId := key.2, open_ := first.price, high := extremes.high
        low := extremes.low, close := last.price, volume := extremes.volume
        intervalSeconds := builder.intervalSeconds
        exchangeTimezone := builder.exchangeTimezone } = .ok () := by
  have hid : isCanonicalId key.2 = true := by
    rw [← h.key first hfirst]
    exact (h.valid hfirst).instrumentId
  have hlowPositive : Decimal.zero < extremes.low := by
    cases habsorbs.low with
    | inl hsame => exact hsame ▸ (h.valid hfirst).price
    | inr hsome =>
      obtain ⟨trade, htrade, hprice⟩ := hsome
      exact hprice ▸ (h.valid (hperm.mem_iff.mp htrade)).price
  have hvolume : ¬extremes.volume < Decimal.zero := by
    have hsum := h.volume_nonneg
    have hscaled := habsorbs.volume
    rw [(hperm.map _).sum_eq, scaled_zero, Int.zero_add] at hscaled
    rw [lt_def, scaled_zero, hscaled]
    omega
  have hopen := habsorbs.highest.2 first (hperm.mem_iff.mpr hfirst)
  have hopen' := habsorbs.lowest.2 first (hperm.mem_iff.mpr hfirst)
  have hclose := habsorbs.highest.2 last (hperm.mem_iff.mpr hlast)
  have hclose' := habsorbs.lowest.2 last (hperm.mem_iff.mpr hlast)
  unfold Bar.validate
  simp only [bind_eq_ok, validateCanonicalId_eq_ok, refuseIf_eq_ok, exists_const,
    not_or, builder.timezone_named, builder.interval_ne_zero, Bool.false_eq_true,
    not_false_eq_true, hid, hvolume, le_def, lt_def, scaled_zero, true_and, and_true]
    at hlowPositive hopen hopen' hclose hclose' ⊢
  omega

theorem IsGroup.exists_barOf_iff (h : builder.IsGroup key group) :
    (∃ bar, builder.barOf (key, group) = .ok bar) ↔ 0 ≤ key.1 + unixEpoch ∧
        (group.map fun trade => trade.quantity.scaled).sum ≤ i128Max := by
  have hperm := perm_insertionSort tradeLe group
  obtain ⟨first, last, hhead, hgetLast, hfirst, hlast⟩ := h.ends
  constructor
  · rintro ⟨bar, hbar⟩
    have hsummary := (h.barOf_spec hbar).2.2
    refine ⟨?_, hsummary.volume ▸ bar.2.volume.le_max⟩
    unfold barOf barOfOrdered at hbar
    dsimp only at hbar
    rw [hhead, hgetLast] at hbar
    simp only [bind_eq_ok] at hbar
    obtain ⟨extremes, hextremes, time, htime, -⟩ := hbar
    unfold formatTimestamp at htime
    split at htime
    · next hbounds => exact hbounds.1
    · contradiction
  · rintro ⟨hyear, hvolume⟩
    obtain ⟨extremes, hextremes⟩ := @exists_foldlM_absorb
      (group.insertionSort tradeLe)
      (fun trade htrade => (h.valid (hperm.mem_iff.mp htrade)).quantity)
      ⟨first.price, first.price, Decimal.zero⟩ (Int.le_refl 0)
      (by
        rw [(hperm.map _).sum_eq]
        change 0 + _ ≤ _
        omega)
    have hbar := h.bar_valid hperm hfirst.1 hlast.1
      (absorbs_of_foldlM hextremes)
    have htime := h.formatTimestamp_key hyear
    unfold barOf barOfOrdered
    dsimp only
    rw [hhead, hgetLast]
    simp only [bind_eq_ok]
    exact ⟨_, extremes, hextremes, _, htime, (), hbar, rfl⟩

end BarBuilder

/-! ## All the bars -/

namespace BarBuilder

structure IsBarsOf (builder : BarBuilder) (trades : List Trade)
    (bars : List (String × Bar)) : Prop where
  sorted : bars.Pairwise fun bar later => bar.1 < later.1 ∨
    bar.1 = later.1 ∧ bar.2.instrumentId < later.2.instrumentId
  once : ∀ trade ∈ trades, ∃! bar, bar ∈ bars ∧ builder.Holds bar trade
  each : ∀ bar ∈ bars,
    Summarizes (trades.filter fun trade => builder.Holds bar trade) bar.2

variable {builder : BarBuilder}

variable {map : OrderedMap BucketKey (List Trade)}
  {bars : List (String × Bar)}

theorem isGroup_of_groups {trades : List Trade} (h : Distinct trades)
    (hmap : OrderedMap.Groups builder.keyOf trades map) {key : BucketKey}
    {group : List Trade} (hfound : map[key]? = some group) :
    builder.IsGroup key group := by
  have hgroup := hmap.getElem?_eq_some.mp hfound
  refine ⟨?_, hgroup.1, ?_⟩
  · rw [hgroup.2]
    exact h.sublist List.filter_sublist
  · intro trade htrade
    rw [hgroup.2, mem_filter] at htrade
    exact of_decide_eq_true htrade.2

theorem map_key_bars {trades : List Trade} (h : Distinct trades)
    (hmap : OrderedMap.Groups builder.keyOf trades map)
    (hbars : collect builder.barOf map.toList = .ok bars) :
    bars.map (fun bar => (unixTimestamp (instantOf bar.1), bar.2.instrumentId))
      = map.keys := by
  have hgroups : ∀ entry ∈ map.toList, builder.IsGroup entry.1 entry.2 :=
    fun entry hentry => isGroup_of_groups h hmap
      (mem_toList_iff_getElem?_eq_some.mp hentry)
  rw [← Std.ExtTreeMap.map_fst_toList_eq_keys]
  have hall := forall₂_of_collect hbars
  clear hbars
  generalize map.toList = entries at *
  induction hall with
  | nil => rfl
  | @cons entry bar entries bars hbar _ ih =>
    rw [forall_mem_cons] at hgroups
    have hspec := hgroups.1.barOf_spec hbar
    have htime := formatTimestamp_eq_ok hspec.1
    rw [map_cons, map_cons, ih hgroups.2, htime.2, hspec.2.1]

variable {bar : String × Bar}

theorem bars_spec {trades : List Trade} (h : Distinct trades)
    (hmap : OrderedMap.Groups builder.keyOf trades map)
    (hbars : collect builder.barOf map.toList = .ok bars) (hbar : bar ∈ bars)
    : ∃ (key : BucketKey) (group : List Trade),
      map[key]? = some group ∧ formatTimestamp key.1 = .ok bar.1 ∧
        bar.2.instrumentId = key.2 ∧ Summarizes group bar.2 := by
  obtain ⟨⟨key, group⟩, hentry, hbarOf⟩ := (collect_mem hbars).2 bar hbar
  have hfound := mem_toList_iff_getElem?_eq_some.mp hentry
  exact ⟨key, group, hfound, (isGroup_of_groups h hmap hfound).barOf_spec hbarOf⟩

theorem holds_bar_iff {trades : List Trade} (h : Distinct trades)
    (hmap : OrderedMap.Groups builder.keyOf trades map)
    (hbars : collect builder.barOf map.toList = .ok bars) (hbar : bar ∈ bars)
    (trade : Trade) : builder.Holds bar trade ↔
      (unixTimestamp (instantOf bar.1), bar.2.instrumentId)
        = builder.keyOf trade := by
  obtain ⟨key, group, hfound, hformat, hinstrument, -⟩ :=
    bars_spec h hmap hbars hbar
  have htime := (formatTimestamp_eq_ok hformat).2
  have hgroup := isGroup_of_groups h hmap hfound
  obtain ⟨first, hfirst⟩ := List.exists_mem_of_ne_nil group hgroup.nonempty
  have hkey := hgroup.key first hfirst
  rw [builder.holds_iff (hkey ▸ htime) (hkey ▸ hinstrument), hkey, htime,
    hinstrument, eq_comm]

theorem pairwise_bars {trades : List Trade} (h : Distinct trades)
    (hmap : OrderedMap.Groups builder.keyOf trades map)
    (hbars : collect builder.barOf map.toList = .ok bars) : bars.Pairwise fun bar later =>
      unixTimestamp (instantOf bar.1) < unixTimestamp (instantOf later.1) ∨
        unixTimestamp (instantOf bar.1) = unixTimestamp (instantOf later.1) ∧
          bar.2.instrumentId < later.2.instrumentId := by
  have hordered : map.keys.Pairwise fun key later =>
      key.1 < later.1 ∨ key.1 = later.1 ∧ key.2 < later.2 := by
    apply Std.ExtTreeMap.ordered_keys.imp
    intro key later hlt
    change lexOrd.compare key later = .lt at hlt
    rw [PairKeys.lexOrd_eq_lt, PairKeys.compare_int_eq_lt,
      PairKeys.compare_string_eq_lt, Std.LawfulEqOrd.compare_eq_iff_eq] at hlt
    exact hlt
  rw [← map_key_bars h hmap hbars, pairwise_map] at hordered
  exact hordered

theorem isBarsOf_of_collect {trades : List Trade} (h : Distinct trades)
    (hmap : OrderedMap.Groups builder.keyOf trades map)
    (hbars : collect builder.barOf map.toList = .ok bars) :
    IsBarsOf builder trades bars := by
  have hkeys := map_key_bars h hmap hbars
  refine ⟨?_, ?_, ?_⟩
  · apply (pairwise_bars h hmap hbars).imp_of_mem
    intro bar later hbar hlater hlt
    obtain ⟨key, -, -, hformat, -⟩ := bars_spec h hmap hbars hbar
    obtain ⟨key', -, -, hformat', -⟩ := bars_spec h hmap hbars hlater
    have htime := formatTimestamp_eq_ok hformat
    have htime' := formatTimestamp_eq_ok hformat'
    cases hlt with
    | inl hlt =>
      left
      rw [lt_iff_instantOf_lt htime.1 htime'.1]
      unfold unixTimestamp at hlt
      omega
    | inr hsame =>
      have hkey : key.1 = key'.1 := by
        rw [← htime.2, ← htime'.2, hsame.1]
      rw [hkey, hformat'] at hformat
      exact .inr ⟨(Except.ok.inj hformat).symm, hsame.2⟩
  · intro trade htrade
    obtain ⟨group, hfound, -⟩ := hmap.exists_group htrade
    have hin : builder.keyOf trade ∈ map.keys := by
      rw [Std.ExtTreeMap.mem_keys, mem_iff_isSome_getElem?, hfound]
      rfl
    rw [← hkeys, mem_map] at hin
    obtain ⟨bar, hbar, hkey⟩ := hin
    refine ⟨bar, ⟨hbar, (holds_bar_iff h hmap hbars hbar trade).mpr hkey⟩, ?_⟩
    rintro bar' ⟨hbar', hholds'⟩
    have hkey' := (holds_bar_iff h hmap hbars hbar' trade).mp hholds'
    have hnodup := @Std.ExtTreeMap.nodup_keys _ _ _ map _
    rw [← hkeys] at hnodup
    exact List.inj_on_of_nodup_map hnodup hbar' hbar (hkey'.trans hkey.symm)
  · intro bar hbar
    obtain ⟨key, group, hfound, hformat, hinstrument, hsummary⟩ :=
      bars_spec h hmap hbars hbar
    have htime := (formatTimestamp_eq_ok hformat).2
    have hsame : (trades.filter fun trade => builder.Holds bar trade)
        = group := by
      rw [(hmap.getElem?_eq_some.mp hfound).2]
      apply List.filter_congr
      intro trade htrade
      rw [decide_eq_decide, holds_bar_iff h hmap hbars hbar, htime, hinstrument, eq_comm]
    rw [hsame]
    exact hsummary

theorem exists_collect_iff {trades : List Trade} (h : Distinct trades)
    (hmap : OrderedMap.Groups builder.keyOf trades map) :
    (∃ bars, collect builder.barOf map.toList = .ok bars) ↔
      ∀ trade ∈ trades, builder.Fits trades trade := by
  have hgroup : ∀ trade ∈ trades, ∃ group,
      map[builder.keyOf trade]? = some group ∧
        group = trades.filter fun other =>
          builder.keyOf other = builder.keyOf trade := by
    intro trade htrade
    obtain ⟨group, hfound, -⟩ := hmap.exists_group htrade
    exact ⟨group, hfound, (hmap.getElem?_eq_some.mp hfound).2⟩
  constructor
  · rintro ⟨bars, hbars⟩ trade htrade
    obtain ⟨group, hfound, hsame⟩ := hgroup trade htrade
    have hfits := (isGroup_of_groups h hmap hfound).exists_barOf_iff.mp
      ((collect_mem hbars).1 _ (mem_toList_iff_getElem?_eq_some.mpr hfound))
    exact ⟨hfits.1, hsame ▸ hfits.2⟩
  · intro hfits
    apply exists_collect
    rintro ⟨key, group⟩ hentry
    have hfound := mem_toList_iff_getElem?_eq_some.mp hentry
    have hgroup' := isGroup_of_groups h hmap hfound
    obtain ⟨trade, htrade⟩ :=
      List.exists_mem_of_ne_nil group hgroup'.nonempty
    have hin : trade ∈ trades := by
      rw [(hmap.getElem?_eq_some.mp hfound).2] at htrade
      exact (mem_filter.mp htrade).1
    have hkey := hgroup'.key trade htrade
    have hfit := hfits trade hin
    rw [hgroup'.exists_barOf_iff, (hmap.getElem?_eq_some.mp hfound).2, ← hkey]
    exact ⟨hfit.year, hfit.volume⟩

end BarBuilder

/-- The bars of distinct trades are those of any order of them, are built
when every group fits, and hold each trade once. -/
theorem build_lossless (builder : BarBuilder) {trades : List Trade}
    (h : Distinct trades) : (∀ trades' : List Trade, trades'.Perm trades →
      builder.build trades' = builder.build trades) ∧
    ((∃ bars, builder.build trades = .ok bars) ↔
      ∀ trade ∈ trades, builder.Fits trades trade) ∧
    ∀ bars, builder.build trades = .ok bars →
      builder.IsBarsOf trades bars := by
  obtain ⟨grouping, hgrouping, hgroups⟩ := builder.exists_grouping h
  have hbuild : builder.build trades
      = collect builder.barOf grouping.grouped.toList := by
    unfold BarBuilder.build
    rw [hgrouping]
    rfl
  refine ⟨fun trades' hperm => builder.build_perm h hperm, ?_, ?_⟩
  · rw [hbuild]
    exact BarBuilder.exists_collect_iff h hgroups
  · intro bars hbars
    rw [hbuild] at hbars
    exact BarBuilder.isBarsOf_of_collect h hgroups hbars

namespace BuildRun

def tradeAt (tradeId : String) (sequence : UInt64) (eventTime : String)
    (price : Decimal) : Trade where
  eventTime := eventTime
  instrumentId := "aapl"
  tradeId := tradeId
  sourceSequence := sequence
  price := price
  quantity := .one

def trades : List Trade :=
  [tradeAt "t2" 2 "2026-01-05T14:30:59Z" .three,
    tradeAt "t1" 1 "2026-01-05T14:30:00Z" .two]

def builder : BarBuilder where
  intervalSeconds := 60
  exchangeTimezone := "America/New_York"
  interval_ne_zero := by decide
  timezone_named := by decide

theorem distinct : Distinct trades where
  valid := by
    have hall : trades.all (fun trade => trade.validate.toOption.isSome)
        = true := by
      decide
    intro trade htrade
    have hsome := all_eq_true.mp hall trade htrade
    cases hvalid : trade.validate with
    | ok u => rfl
    | error e => simp [hvalid, Except.toOption] at hsome
  ids := by decide
  sequences := by decide

theorem lossless : (∀ trades' : List Trade, trades'.Perm trades →
      builder.build trades' = builder.build trades) ∧
    ((∃ bars, builder.build trades = .ok bars) ↔
      ∀ trade ∈ trades, builder.Fits trades trade) ∧
    ∀ bars, builder.build trades = .ok bars → builder.IsBarsOf trades bars :=
  build_lossless builder distinct

end BuildRun

end Follon.MarketData
