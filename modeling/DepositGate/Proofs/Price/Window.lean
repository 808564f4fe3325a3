import DepositGate.Proofs.Price

/-!
# When a price is accepted

What is read from a feed and a sequencer is accepted as a price if it passes nine checks, and it is
refused with what the first check that fails says. Each check is stated here on its own, in the
natural numbers and the integers, where no sum of times wraps around and no difference is cut.

Only two of the checks look at the clock. A grace period lets prices count from a moment on, and a
staleness window up to a moment, so the moments at which a reading is accepted have no gaps. An
accepted price is the answer on the scale of 18 decimal places, without any loss.
-/

namespace DepositGate

theorem toNat_elapsed (since now : UInt64) :
    (elapsed since now).toNat = now.toNat - since.toNat := by
  rw [elapsed]
  split
  · rename_i hle
    exact UInt64.toNat_sub_of_le _ _ hle
  · rename_i hlt
    rw [UInt64.le_iff_toNat_le] at hlt
    rw [UInt64.toNat_zero]
    omega

/-- A time that may have passed is shorter than another exactly if the sum is still ahead. -/
theorem elapsed_lt_iff (since now limit : UInt64) : elapsed since now < limit
    ↔ limit.toNat ≠ 0 ∧ now.toNat < since.toNat + limit.toNat := by
  rw [UInt64.lt_iff_toNat_lt, toNat_elapsed]
  omega

theorem lt_elapsed_iff (since now limit : UInt64) :
    limit < elapsed since now ↔ since.toNat + limit.toNat < now.toNat := by
  rw [UInt64.lt_iff_toNat_lt, toNat_elapsed]
  omega

namespace Oracle

/-- The checks that a reading passes before its answer is used as a price. -/
inductive Check where
  /-- The sequencer's report is had. -/
  | report
  | running
  | grace
  /-- The feed has a round. -/
  | answered
  | positive
  | complete
  /-- The round that answered is not older than the one asked for. -/
  | current
  | fresh
  | places
deriving DecidableEq, Repr

def Check.inOrder : List Check :=
  [report, running, grace, answered, positive, complete, current, fresh, places]

/-- The refusal in place of something that could not be had. -/
def refusal? {α : Type} : Except Refusal α → Option Refusal
  | .ok _ => none
  | .error why => some why

/-- What a reading is refused with by a check that it fails. Checks of what could not be had are
left to the check that asks for it. -/
def flaw? (gate : Option SequencerGate) (reading : Reading) (window now : UInt64) :
    Check → Option Refusal
  | .report => gate.bind fun gate => refusal? gate.status
  | .running => gate.bind fun gate => gate.status.toOption.bind fun status =>
    if status.isUp = false then some (.oracleInvalid .sequencerDown) else none
  | .grace => gate.bind fun gate => gate.status.toOption.bind fun status =>
    if gate.grace.toNat ≠ 0 ∧ now.toNat < status.startedAt.toNat + gate.grace.toNat then
      some (.oracleInvalid (.gracePeriod (elapsed status.startedAt now) gate.grace))
    else none
  | .answered => refusal? reading.round
  | .positive => reading.round.toOption.bind fun round =>
    if round.answer.val ≤ 0 then some (.oracleInvalid (.notPositive round.answer.val)) else none
  | .complete => reading.round.toOption.bind fun round =>
    if round.updatedAt.toNat = 0 then some (.oracleInvalid (.incompleteRound round.id)) else none
  | .current => reading.round.toOption.bind fun round =>
    if round.answeredIn.toNat < round.id.toNat then
      some (.roundInconsistent round.id round.answeredIn)
    else none
  | .fresh => reading.round.toOption.bind fun round =>
    if window.toNat ≠ 0 ∧ round.updatedAt.toNat + window.toNat < now.toNat then
      some (.oracleStale (elapsed round.updatedAt now) window)
    else none
  | .places => reading.decimals.bind fun decimals =>
    if 18 < decimals.toNat then some (.oracleInvalid (.tooManyDecimals decimals)) else none

/-- The decimal places that an answer is taken to have. -/
def placesOf (reported : Option UInt8) : Nat :=
  match reported with
  | none => 8
  | some decimals => if decimals.toNat = 0 then 8 else decimals.toNat

/-- The quote gives the answer of the round that was read, on the scale of 18 decimal places. -/
structure Exact (reading : Reading) (quote : Quote) : Prop where
  places : quote.decimals.toNat = placesOf reading.decimals
  places_le : placesOf reading.decimals ≤ 18
  price : ∃ round, reading.round = .ok round ∧ 0 < round.answer.val
    ∧ (quote.price.val : Int) = round.answer.val * 10 ^ (18 - placesOf reading.decimals)
    ∧ quote.observedAt = round.updatedAt ∧ quote.round = round.id

section

variable {gate : Option SequencerGate} {reading : Reading} {window now : UInt64} {round : Round}

/-! ### Each stage is decided by its checks -/

theorem decided_checkSequencer (gate : Option SequencerGate) (reading : Reading)
    (window now : UInt64) :
    Decided ([Check.report, .running, .grace].findSome? (flaw? gate reading window now))
      (fun _ => True) (refusing (checkSequencer gate now)) := by
  rw [findSome?_cons_or, findSome?_cons_or, findSome?_cons_or]
  cases gate with
  | none => exact decided_ok trivial
  | some gate =>
    obtain ⟨status, grace⟩ := gate
    cases status with
    | error why => rfl
    | ok status =>
      apply Decided.guard (by simp)
      intro _
      apply Decided.guard (elapsed_lt_iff _ _ _)
      intro _
      exact decided_ok trivial

theorem decided_checkRound (gate : Option SequencerGate) (hround : reading.round = .ok round)
    (window now : UInt64) :
    Decided
      ([Check.positive, .complete, .current, .fresh].findSome? (flaw? gate reading window now))
      (fun _ => 0 < round.answer.val) (refusing (checkRound round window now)) := by
  rw [findSome?_cons_or, findSome?_cons_or, findSome?_cons_or, findSome?_cons_or]
  simp only [flaw?, hround, Except.toOption, Option.bind_some]
  have hincomplete : round.updatedAt = 0 ↔ round.updatedAt.toNat = 0 := by
    rw [← UInt64.toNat_inj, UInt64.toNat_zero]
  have hold : 0 < window ∧ window < elapsed round.updatedAt now
      ↔ window.toNat ≠ 0 ∧ round.updatedAt.toNat + window.toNat < now.toNat := by
    rw [lt_elapsed_iff, UInt64.lt_iff_toNat_lt, UInt64.toNat_zero, Nat.pos_iff_ne_zero]
  apply Decided.guard Iff.rfl
  intro hpositive
  apply Decided.guard hincomplete
  intro _
  apply Decided.guard UInt64.lt_iff_toNat_lt
  intro _
  apply Decided.guard hold
  intro _
  exact decided_ok (Int.not_le.1 hpositive)

theorem decided_round (gate : Option SequencerGate) (reading : Reading) (window now : UInt64) :
    Decided ([Check.answered].findSome? (flaw? gate reading window now))
      (fun round => reading.round = .ok round) (refusing reading.round) := by
  rw [List.findSome?_singleton, flaw?]
  cases reading.round with
  | error why => rfl
  | ok round => exact decided_ok rfl

theorem decided_scaleOf (gate : Option SequencerGate) (reading : Reading) (window now : UInt64) :
    Decided ([Check.places].findSome? (flaw? gate reading window now))
      (fun decimals => decimals.toNat = placesOf reading.decimals
        ∧ placesOf reading.decimals ≤ 18)
      (refusing (scaleOf reading.decimals)) := by
  rw [List.findSome?_singleton, flaw?, scaleOf.eq_def, placesOf.eq_def]
  cases reading.decimals with
  | none => exact decided_ok ⟨rfl, by decide⟩
  | some decimals =>
    by_cases hzero : decimals = 0
    · subst hzero
      exact decided_ok ⟨rfl, by decide⟩
    · have hnat : decimals.toNat ≠ 0 := fun h => hzero (UInt8.toNat_inj.1 h)
      have hguard : Decided ((if 18 < decimals.toNat then
            some (.oracleInvalid (.tooManyDecimals decimals)) else none).or none)
          (fun scale : UInt8 => scale.toNat = decimals.toNat ∧ decimals.toNat ≤ 18)
          (refusing (if 18 < decimals then .error (.oracleInvalid (.tooManyDecimals decimals))
            else .ok decimals)) :=
        Decided.guard UInt8.lt_iff_toNat_lt fun hfew => decided_ok ⟨rfl, Nat.not_lt.1 hfew⟩
      rw [Option.or_none] at hguard
      simpa only [Option.bind_some, if_neg hzero, if_neg hnat] using hguard

/-- A positive answer of 128 bits keeps its value on the scale of 18 decimal places. -/
theorem val_saturate_scaled (answer : Answer) (places : Nat) :
    (Amount.saturate (answer.val.toNat * 10 ^ (18 - places))).val
      = answer.val.toNat * 10 ^ (18 - places) := by
  have hanswer : answer.val.toNat ≤ 2 ^ 127 := by
    have := answer.val_lt
    omega
  have hfits : answer.val.toNat * 10 ^ (18 - places) ≤ 2 ^ 256 - 1 := by
    calc answer.val.toNat * 10 ^ (18 - places)
        ≤ 2 ^ 127 * 10 ^ 18 :=
          Nat.mul_le_mul hanswer (Nat.pow_le_pow_right (by decide) (Nat.sub_le 18 places))
      _ ≤ 2 ^ 256 - 1 := by decide
  rw [Amount.val_saturate, Nat.min_eq_left hfits]

/-- Whether a price is accepted is decided by the first check that fails. -/
theorem decided_accept (gate : Option SequencerGate) (reading : Reading) (window now : UInt64) :
    Decided (Check.inOrder.findSome? (flaw? gate reading window now)) (Exact reading)
      (accept gate reading window now) := by
  -- Each group of checks decides one stage of `accept`, and what follows the last never fails.
  have hstages : Check.inOrder = [.report, .running, .grace]
      ++ ([.answered] ++ ([.positive, .complete, .current, .fresh] ++ [.places])) := rfl
  rw [hstages, List.findSome?_append, List.findSome?_append, List.findSome?_append]
  apply (decided_checkSequencer gate reading window now).bind
  intro _ _
  apply (decided_round gate reading window now).bind
  intro round hround
  apply (decided_checkRound gate hround window now).bind
  intro _ hpositive
  apply (decided_scaleOf gate reading window now).bind_none
  intro decimals ⟨hdecimals, hle⟩
  rw [powerOfTen_eq_ok (Nat.sub_le 18 decimals.toNat) (by decide), hdecimals]
  apply decided_ok
  refine ⟨hdecimals, hle, round, hround, hpositive, ?_, rfl, rfl⟩
  rw [val_saturate_scaled, Int.natCast_mul, Int.toNat_of_nonneg (Int.le_of_lt hpositive)]
  norm_cast

/-! ### The moments at which a reading is accepted -/

/-- The sequencer, if one is watched, is up and has been for its grace period. -/
def Open (gate : Option SequencerGate) (now : UInt64) : Prop :=
  ∀ watched ∈ gate, ∃ status, watched.status = .ok status ∧ status.isUp = true
    ∧ (watched.grace.toNat = 0 ∨ status.startedAt.toNat + watched.grace.toNat ≤ now.toNat)

/-- The round has a positive answer, is complete and not answered by an older one, and it is fresh
unless there is no limit on its age. -/
structure Usable (round : Round) (window now : UInt64) : Prop where
  positive : 0 < round.answer.val
  complete : round.updatedAt.toNat ≠ 0
  current : round.id.toNat ≤ round.answeredIn.toNat
  fresh : window.toNat = 0 ∨ now.toNat ≤ round.updatedAt.toNat + window.toNat

theorem usable_iff {round : Round} {window now : UInt64} : Usable round window now
    ↔ 0 < round.answer.val ∧ round.updatedAt.toNat ≠ 0 ∧ round.id.toNat ≤ round.answeredIn.toNat
      ∧ (window.toNat = 0 ∨ now.toNat ≤ round.updatedAt.toNat + window.toNat) :=
  ⟨fun ⟨hpositive, hcomplete, hcurrent, hfresh⟩ => ⟨hpositive, hcomplete, hcurrent, hfresh⟩,
    fun ⟨hpositive, hcomplete, hcurrent, hfresh⟩ => ⟨hpositive, hcomplete, hcurrent, hfresh⟩⟩

/-- The feed has a usable round, and its decimal places, if it reports any, are at most 18. -/
def Answers (reading : Reading) (window now : UInt64) : Prop :=
  (∃ round, reading.round = .ok round ∧ Usable round window now)
    ∧ ∀ decimals ∈ reading.decimals, decimals.toNat ≤ 18

theorem open_iff (gate : Option SequencerGate) (reading : Reading) (window now : UInt64) :
    Open gate now ↔ ∀ check ∈ [Check.report, .running, .grace],
      flaw? gate reading window now check = none := by
  rw [List.forall_mem_cons, List.forall_mem_cons, List.forall_mem_singleton]
  cases gate with
  | none => simp [Open, flaw?]
  | some gate =>
    obtain ⟨status, grace⟩ := gate
    cases status with
    | error why => simp [Open, flaw?, refusal?]
    | ok status =>
      simp [Open, flaw?, refusal?, Except.toOption, Decidable.or_iff_not_imp_left]

theorem answers_iff (gate : Option SequencerGate) (reading : Reading) (window now : UInt64) :
    Answers reading window now
      ↔ ∀ check ∈ [Check.answered, .positive, .complete, .current, .fresh, .places],
        flaw? gate reading window now check = none := by
  obtain ⟨round, decimals⟩ := reading
  have hplaces : (∀ reported ∈ decimals, reported.toNat ≤ 18)
      ↔ flaw? gate ⟨round, decimals⟩ window now .places = none := by
    cases decimals <;> simp [flaw?]
  rw [List.forall_mem_cons, List.forall_mem_cons, List.forall_mem_cons, List.forall_mem_cons,
    List.forall_mem_cons, List.forall_mem_singleton, ← hplaces]
  cases round with
  | error why => simp [Answers, flaw?, refusal?]
  | ok round =>
    simp [Answers, flaw?, refusal?, Except.toOption, usable_iff, Decidable.or_iff_not_imp_left,
      and_assoc]

/-- A price is accepted exactly if the sequencer is open and the feed answers. -/
theorem accepted_iff (gate : Option SequencerGate) (reading : Reading) (window now : UInt64) :
    (∃ quote, accept gate reading window now = .ok quote)
      ↔ Open gate now ∧ Answers reading window now := by
  have hsplit : Check.inOrder = [.report, .running, .grace]
      ++ [.answered, .positive, .complete, .current, .fresh, .places] := rfl
  rw [(decided_accept gate reading window now).eq_ok_iff, hsplit, List.findSome?_eq_none_iff,
    List.forall_mem_append, ← open_iff gate reading window now,
    ← answers_iff gate reading window now]

theorem Open.mono {earlier later : UInt64} (h : Open gate earlier) (hle : earlier ≤ later) :
    Open gate later := by
  intro watched hwatched
  obtain ⟨status, hstatus, hup, hgrace⟩ := h watched hwatched
  exact ⟨status, hstatus, hup,
    hgrace.imp_right fun hwaited => Nat.le_trans hwaited (UInt64.le_iff_toNat_le.1 hle)⟩

theorem Answers.anti {earlier later : UInt64} (h : Answers reading window later)
    (hle : earlier ≤ later) : Answers reading window earlier := by
  obtain ⟨⟨round, hround, husable⟩, hplaces⟩ := h
  have hfresh := husable.fresh.imp_right (Nat.le_trans (UInt64.le_iff_toNat_le.1 hle))
  exact ⟨⟨round, hround, { husable with fresh := hfresh }⟩, hplaces⟩

/-! ### The main result -/

/-- A reading is accepted as a price exactly while the sequencer is open and the feed answers, so at
no moment between two others at which it is accepted is it refused. The price is the answer, exactly
and on the scale of 18 decimal places. Otherwise the reading is refused with what the first check
that fails says, and nothing else happens. -/
theorem accept_exact (gate : Option SequencerGate) (reading : Reading) (window : UInt64) :
    (∀ now, (∃ quote, accept gate reading window now = .ok quote)
      ↔ Open gate now ∧ Answers reading window now)
    ∧ (∀ first now last, first ≤ now → now ≤ last
      → (∃ quote, accept gate reading window first = .ok quote)
      → (∃ quote, accept gate reading window last = .ok quote)
      → ∃ quote, accept gate reading window now = .ok quote)
    ∧ (∀ now quote, accept gate reading window now = .ok quote → Exact reading quote)
    ∧ (∀ now failure, accept gate reading window now = .error failure
      ↔ ∃ passed check rest why, Check.inOrder = passed ++ check :: rest
        ∧ (∀ earlier ∈ passed, flaw? gate reading window now earlier = none)
        ∧ flaw? gate reading window now check = some why ∧ failure = .refused why) := by
  refine ⟨fun now => accepted_iff gate reading window now, ?_, ?_, ?_⟩
  · intro first now last hfirst hlast hopen hanswers
    rw [accepted_iff] at hopen hanswers ⊢
    exact ⟨hopen.1.mono hfirst, hanswers.2.anti hlast⟩
  · intro now quote hquote
    exact (decided_accept gate reading window now).holds hquote
  · intro now failure
    cases failure with
    | fault what =>
      have hnever := faultless_accept gate reading window now what
      simp [hnever]
    | refused why =>
      rw [(decided_accept gate reading window now).eq_refused_iff, List.findSome?_eq_some_iff]
      constructor
      · intro ⟨passed, check, rest, horder, hflaw, hpassed⟩
        exact ⟨passed, check, rest, why, horder, hpassed, hflaw, rfl⟩
      · intro ⟨passed, check, rest, other, horder, hpassed, hflaw, hsame⟩
        cases hsame
        exact ⟨passed, check, rest, horder, hflaw, hpassed⟩

end

/-- A sequencer that is up since moment 100 and has to be for 50 seconds. -/
def sampleGate : SequencerGate := ⟨.ok ⟨true, 100⟩, 50⟩

/-- An answer of five dollars and a half, in eight decimal places, of moment 120. -/
def sampleReading : Reading := ⟨.ok ⟨7, .ofInt64 550000000, 120, 120, 7⟩, some 8⟩

/-- With prices fresh for a minute, the answer counts at 150 and at 180 and so at 165; at 181 it is
refused for its age. -/
theorem accept_sampleReading :
    (∃ quote, accept (some sampleGate) sampleReading 60 165 = .ok quote)
      ∧ (∀ quote, accept (some sampleGate) sampleReading 60 165 = .ok quote
        → Exact sampleReading quote)
      ∧ accept (some sampleGate) sampleReading 60 181
        = .error (.refused (.oracleStale 61 60)) := by
  obtain ⟨_, hbetween, hexact, herror⟩ := accept_exact (some sampleGate) sampleReading 60
  have hfirst : ∃ quote, accept (some sampleGate) sampleReading 60 150 = .ok quote := ⟨_, rfl⟩
  have hlast : ∃ quote, accept (some sampleGate) sampleReading 60 180 = .ok quote := ⟨_, rfl⟩
  refine ⟨hbetween 150 165 180 (by decide) (by decide) hfirst hlast, hexact 165, ?_⟩
  refine (herror 181 _).2 ⟨[.report, .running, .grace, .answered, .positive, .complete, .current],
    .fresh, [.places], _, rfl, by decide, by decide, rfl⟩

end Oracle

end DepositGate
