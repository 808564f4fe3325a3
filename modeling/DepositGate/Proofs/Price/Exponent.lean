import DepositGate.Proofs.Price.Window

/-!
# Prices given with an exponent

A feed of prices with exponents answers for its last update only, and its oracle prices that update
if the exponent is from -18 to -1, the confidence is narrow enough and the update is fresh. The
price is then the power of ten by the exponent, exactly.

The size of an exponent is told in a byte. Where it does not fit, from -256 down, nothing is told
and the oracle falls back to eight decimal places: such an update, which says that the price is next
to nothing, is priced as well, many powers of ten too high. Exponents between the two ranges are
refused.
-/

namespace DepositGate

namespace ExponentUpdate

/-- The decimal places that the price of an update is taken to have. -/
def places (update : ExponentUpdate) : Nat :=
  if update.exponent.toInt ≤ -256 then 8 else update.exponent.toInt.natAbs

/-- The update is priced at a moment. -/
structure Counts (update : ExponentUpdate) (maxConfidence window now : UInt64) : Prop where
  positive : 0 < update.price.toInt
  exponent : (-18 ≤ update.exponent.toInt ∧ update.exponent.toInt ≤ -1)
    ∨ update.exponent.toInt ≤ -256
  narrow : update.confidence.toNat * 10000 ≤ update.price.toInt * maxConfidence.toNat
  published : update.publishedAt.toNat ≠ 0
  fresh : window.toNat = 0 ∨ now.toNat ≤ update.publishedAt.toNat + window.toNat

end ExponentUpdate

namespace ExponentFeed

/-- The feed after a row of updates. -/
def after (maxConfidence : UInt64) (updates : List ExponentUpdate) : ExponentFeed :=
  updates.foldl publish ⟨none, maxConfidence⟩

variable {maxConfidence window now : UInt64} {updates : List ExponentUpdate} {feed : ExponentFeed}
  {update : ExponentUpdate} {number : UInt64}

theorem exists_latest_publish (feed : ExponentFeed) (update : ExponentUpdate) :
    ∃ number, (feed.publish update).latest = some (update, number) := ⟨_, rfl⟩

@[simp] theorem maxConfidence_after (maxConfidence : UInt64) (updates : List ExponentUpdate) :
    (after maxConfidence updates).maxConfidence = maxConfidence := by
  have hkeep : ∀ feed : ExponentFeed,
      (updates.foldl publish feed).maxConfidence = feed.maxConfidence := by
    induction updates with
    | nil => exact fun _ => rfl
    | cons update rest ih => exact fun feed => ih (feed.publish update)
  exact hkeep _

/-- The update that a feed answers for is the last one. -/
theorem latest_after (maxConfidence : UInt64) (updates : List ExponentUpdate) :
    (after maxConfidence updates).latest.map Prod.fst = updates.getLast? := by
  -- No induction: publishing replaces whatever the feed held.
  rcases List.eq_nil_or_concat updates with rfl | ⟨earlier, last, rfl⟩
  · rfl
  · obtain ⟨number, hlatest⟩ := exists_latest_publish (after maxConfidence earlier) last
    rw [after, List.concat_eq_append, List.foldl_append, List.getLast?_append]
    exact congrArg (Option.map Prod.fst) hlatest

theorem isTooWide_iff (hpositive : 0 < update.price.toInt) : feed.isTooWide update = false
    ↔ update.confidence.toNat * 10000 ≤ update.price.toInt * feed.maxConfidence.toNat := by
  simp [isTooWide, hpositive]

/-- What a feed answers with: its last update, for a negative exponent and a narrow confidence. -/
theorem round_eq_ok_iff {round : Round} (hlatest : feed.latest = some (update, number)) :
    feed.round = .ok round ↔ update.exponent.toInt < 0 ∧ feed.isTooWide update = false
      ∧ ⟨number, .ofInt64 update.price, update.publishedAt, update.publishedAt, number⟩
        = round := by
  rw [ExponentFeed.round, hlatest]
  by_cases hnonnegative : 0 ≤ update.exponent.toInt
  · simp [hnonnegative, Int.not_lt.2 hnonnegative]
  · have hnegative := Int.not_le.1 hnonnegative
    cases hwide : feed.isTooWide update <;> simp [hnonnegative, hnegative, hwide]

theorem decimals_le_iff (hlatest : feed.latest = some (update, number)) :
    (∀ decimals ∈ feed.decimals, decimals.toNat ≤ 18)
      ↔ update.exponent.toInt.natAbs ≤ 18 ∨ 256 ≤ update.exponent.toInt.natAbs := by
  rw [ExponentFeed.decimals, hlatest]
  by_cases hfits : update.exponent.toInt.natAbs < 256
  · have hsize : (UInt8.ofNat update.exponent.toInt.natAbs).toNat = update.exponent.toInt.natAbs :=
      UInt8.toNat_ofNat_of_lt hfits
    simp [hfits, hsize, Nat.not_le.2 hfits]
  · simp [hfits, Nat.not_lt.1 hfits]

theorem placesOf_decimals (hlatest : feed.latest = some (update, number))
    (hnegative : update.exponent.toInt < 0) :
    Oracle.placesOf feed.decimals = update.places := by
  rw [ExponentFeed.decimals, hlatest, ExponentUpdate.places]
  by_cases hfits : update.exponent.toInt.natAbs < 256
  · have hsize : (UInt8.ofNat update.exponent.toInt.natAbs).toNat = update.exponent.toInt.natAbs :=
      UInt8.toNat_ofNat_of_lt hfits
    have hzero : update.exponent.toInt.natAbs ≠ 0 := by omega
    have hlarge : ¬update.exponent.toInt ≤ -256 := by omega
    simp only [if_pos hfits, if_neg hlarge, Oracle.placesOf, hsize, if_neg hzero]
  · have hlarge : update.exponent.toInt ≤ -256 := by omega
    simp only [if_neg hfits, if_pos hlarge, Oracle.placesOf]

theorem round_of_nothing (hlatest : feed.latest = none) (round : Round) :
    feed.round ≠ .ok round := by
  rw [ExponentFeed.round, hlatest]
  exact nofun

/-- A feed with a last update answers exactly if the update counts. -/
theorem answers_iff_counts (hlatest : feed.latest = some (update, number)) :
    Oracle.Answers feed.reading window now ↔ update.Counts feed.maxConfidence window now := by
  have hplaces := decimals_le_iff hlatest
  constructor
  · intro ⟨⟨round, hround, husable⟩, hfew⟩
    obtain ⟨hnegative, hnarrow, rfl⟩ := (round_eq_ok_iff hlatest).1 hround
    have hpositive : 0 < update.price.toInt := husable.positive
    have hsizes := hplaces.1 hfew
    exact ⟨hpositive, by omega, (isTooWide_iff hpositive).1 hnarrow, husable.complete,
      husable.fresh⟩
  · intro hcounts
    have hexponent := hcounts.exponent
    have hround : feed.round = .ok _ := (round_eq_ok_iff hlatest).2
      ⟨by omega, (isTooWide_iff hcounts.positive).2 hcounts.narrow, rfl⟩
    exact ⟨⟨_, hround, hcounts.positive, hcounts.published, Nat.le_refl _, hcounts.fresh⟩,
      hplaces.2 (by omega)⟩

theorem answers_after_iff : Oracle.Answers (after maxConfidence updates).reading window now
    ↔ ∃ last, updates.getLast? = some last ∧ last.Counts maxConfidence window now := by
  have hlast := latest_after maxConfidence updates
  rw [← hlast]
  cases hlatest : (after maxConfidence updates).latest with
  | none =>
    constructor
    · intro ⟨⟨round, hround, _⟩, _⟩
      exact absurd hround (round_of_nothing hlatest round)
    · intro ⟨_, hnone, _⟩
      cases hnone
  | some latest =>
    rw [answers_iff_counts hlatest, maxConfidence_after]
    simp

/-- The price of a quote is the price of the last update by the power of ten of its decimal
places. -/
theorem price_of_exact {quote : Quote}
    (hexact : Oracle.Exact (after maxConfidence updates).reading quote) :
    ∃ last, updates.getLast? = some last ∧
      (quote.price.val : Int) = last.price.toInt * 10 ^ (18 - last.places) := by
  obtain ⟨round, hround, _, hprice, _⟩ := hexact.price
  have hlast := latest_after maxConfidence updates
  cases hlatest : (after maxConfidence updates).latest with
  | none => exact absurd hround (round_of_nothing hlatest round)
  | some latest =>
    obtain ⟨update, number⟩ := latest
    rw [hlatest] at hlast
    obtain ⟨hnegative, -, rfl⟩ := (round_eq_ok_iff hlatest).1 hround
    refine ⟨update, hlast.symm, ?_⟩
    rw [← placesOf_decimals hlatest hnegative]
    exact hprice

/-- An oracle over a feed of exponents that watches no sequencer. -/
def oracle (feed : ExponentFeed) (window : UInt64) (nativeDecimals : UInt8) : Oracle :=
  ⟨.exponents feed, none, window, nativeDecimals⟩

theorem open_oracle (feed : ExponentFeed) (window : UInt64) (nativeDecimals : UInt8)
    (now : UInt64) : Oracle.Open (feed.oracle window nativeDecimals).gate now := nofun

/-- After any row of updates there is a quote exactly if the last update counts. From -18 up the
price is scaled by the power of ten of the exponent, without any loss; below, where the size of the
exponent is not told, it is scaled as if the exponent were -8. -/
theorem quote_after (maxConfidence window : UInt64) (nativeDecimals : UInt8)
    (updates : List ExponentUpdate) (now : UInt64) :
    ((∃ quote, ((after maxConfidence updates).oracle window nativeDecimals).quote now = .ok quote)
      ↔ ∃ last, updates.getLast? = some last ∧ last.Counts maxConfidence window now)
    ∧ ∀ quote, ((after maxConfidence updates).oracle window nativeDecimals).quote now = .ok quote →
      ∃ last, updates.getLast? = some last ∧
        (-18 ≤ last.exponent.toInt → (quote.price.val : Int)
          = last.price.toInt * 10 ^ (18 + last.exponent.toInt).toNat)
        ∧ (last.exponent.toInt < -18 → last.exponent.toInt ≤ -256
          ∧ (quote.price.val : Int) = last.price.toInt * 10 ^ 10) := by
  have haccepted : (∃ quote,
      ((after maxConfidence updates).oracle window nativeDecimals).quote now = .ok quote)
        ↔ ∃ last, updates.getLast? = some last ∧ last.Counts maxConfidence window now := by
    rw [← answers_after_iff]
    exact (Oracle.accepted_iff _ _ _ _).trans (and_iff_right (open_oracle _ _ _ _))
  refine ⟨haccepted, ?_⟩
  intro quote hquote
  obtain ⟨last, hlast, hcounts⟩ := haccepted.1 ⟨quote, hquote⟩
  have hexact := (Oracle.decided_accept _ _ _ _).holds hquote
  obtain ⟨other, hother, hprice⟩ := price_of_exact hexact
  obtain rfl : last = other := Option.some.inj (hlast.symm.trans hother)
  have hexponent := hcounts.exponent
  refine ⟨last, hlast, ?_, ?_⟩
  · intro hnear
    have hfits : ¬last.exponent.toInt ≤ -256 := by omega
    have hpower : 18 - last.places = (18 + last.exponent.toInt).toNat := by
      rw [ExponentUpdate.places, if_neg hfits]
      omega
    rw [hprice, hpower]
  · intro hfar
    have hlarge : last.exponent.toInt ≤ -256 := by omega
    rw [hprice, ExponentUpdate.places, if_pos hlarge]
    exact ⟨hlarge, rfl⟩

/-- A price of 150 dollars, in units of 10^-8 dollars. -/
def sampleUpdate : ExponentUpdate := ⟨15000000000, 100000000, -8, 1700000000⟩

theorem quote_sampleUpdate : sampleUpdate.Counts 100 60 1700000030
    ∧ ∃ quote, ((after 100 [sampleUpdate]).oracle 60 18).quote 1700000030 = .ok quote
      ∧ (quote.price.val : Int) = 150 * 10 ^ 18 := by
  have hcounts : sampleUpdate.Counts 100 60 1700000030 :=
    ⟨by decide, by decide, by decide, by decide, by decide⟩
  obtain ⟨haccepted, hprice⟩ := quote_after 100 60 18 [sampleUpdate] 1700000030
  obtain ⟨quote, hquote⟩ := haccepted.2 ⟨sampleUpdate, rfl, hcounts⟩
  obtain ⟨last, hlast, hnear, _⟩ := hprice quote hquote
  obtain rfl : sampleUpdate = last := Option.some.inj hlast
  exact ⟨hcounts, quote, hquote, hnear (by decide)⟩

/-- A price of five units of 10^-256 dollars, which is quoted as if its units were 10^-8 dollars. -/
def vanishingUpdate : ExponentUpdate := ⟨5, 0, -256, 1700000000⟩

theorem vanishingUpdate_quoted :
    ¬((∃ quote, ((after 100 [vanishingUpdate]).oracle 60 18).quote 1700000000 = .ok quote)
      ↔ ∃ last, [vanishingUpdate].getLast? = some last ∧ 0 < last.price.toInt
        ∧ (-18 ≤ last.exponent.toInt ∧ last.exponent.toInt ≤ -1)
        ∧ last.confidence.toNat * 10000 ≤ last.price.toInt * (100 : UInt64).toNat
        ∧ last.publishedAt.toNat ≠ 0
        ∧ ((60 : UInt64).toNat = 0
          ∨ (1700000000 : UInt64).toNat ≤ last.publishedAt.toNat + (60 : UInt64).toNat)) := by
  intro hclaim
  obtain ⟨last, hlast, _, ⟨hnear, _⟩, _⟩ := hclaim.1 ⟨_, rfl⟩
  obtain rfl : vanishingUpdate = last := Option.some.inj hlast
  exact absurd hnear (by decide)

end ExponentFeed

end DepositGate
