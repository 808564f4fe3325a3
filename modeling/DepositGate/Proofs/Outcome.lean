import DepositGate.Refusal

/-!
# Outcomes of steps in a row

A computation in steps gives a result exactly if every step does, and otherwise fails as its first
failing step does. What only refuses never stops on a fault, and what only faults never refuses. An
outcome is faultless if it is not a fault; steps in a row are if each of them is.

An outcome is decided by a flaw that there may be: with a flaw it is the refusal for it, and without
one it is a result. Of steps in a row that are each decided by a flaw, the first flaw decides.
-/

namespace DepositGate

variable {ε α β : Type}

theorem bind_eq_ok_iff {first : Except ε α} {next : α → Except ε β} {result : β} :
    (first >>= next) = .ok result ↔ ∃ a, first = .ok a ∧ next a = .ok result := by
  cases first with
  | ok a =>
    constructor
    · intro h
      exact ⟨a, rfl, h⟩
    · intro ⟨_, ha, h⟩
      cases ha
      exact h
  | error e =>
    constructor
    · intro h
      cases h
    · intro ⟨_, ha, _⟩
      cases ha

theorem bind_eq_error_iff {first : Except ε α} {next : α → Except ε β} {why : ε} :
    (first >>= next) = .error why
      ↔ first = .error why ∨ ∃ a, first = .ok a ∧ next a = .error why := by
  cases first with
  | ok a =>
    constructor
    · intro h
      exact .inr ⟨a, rfl, h⟩
    · intro h
      rcases h with hfirst | ⟨_, ha, hnext⟩
      · cases hfirst
      · cases ha
        exact hnext
  | error e =>
    constructor
    · intro h
      exact .inl (congrArg Except.error (Except.error.inj h))
    · intro h
      rcases h with hfirst | ⟨_, ha, _⟩
      · exact congrArg Except.error (Except.error.inj hfirst)
      · cases ha

theorem map_eq_ok_iff {outcome : Except ε α} {f : α → β} {result : β} :
    outcome.map f = .ok result ↔ ∃ a, outcome = .ok a ∧ f a = result := by
  cases outcome <;> simp [Except.map]

theorem map_eq_error_iff {outcome : Except ε α} {f : α → β} {why : ε} :
    outcome.map f = .error why ↔ outcome = .error why := by
  cases outcome <;> simp [Except.map]

theorem eq_ok_of_toOption {outcome : Except ε α} {a : α} (h : outcome.toOption = some a) :
    outcome = .ok a := by
  cases outcome with
  | ok b => exact congrArg Except.ok (Option.some.inj h)
  | error e => cases h

/-- Of some candidates the first that there is, is the first one or the first of the others. -/
theorem findSome?_cons_or (f : α → Option β) (a : α) (rest : List α) :
    (a :: rest).findSome? f = (f a).or (rest.findSome? f) := by
  rw [List.findSome?_cons]
  cases f a <;> rfl

@[simp] theorem refusing_eq_ok_iff {outcome : Except Refusal α} {a : α} :
    refusing outcome = .ok a ↔ outcome = .ok a := by
  cases outcome <;> simp [refusing]

@[simp] theorem refusing_eq_refused_iff {outcome : Except Refusal α} {why : Refusal} :
    refusing outcome = .error (.refused why) ↔ outcome = .error why := by
  cases outcome <;> simp [refusing]

@[simp] theorem refusing_ne_fault {outcome : Except Refusal α} {what : Fault} :
    refusing outcome ≠ .error (.fault what) := by
  cases outcome <;> simp [refusing]

@[simp] theorem computing_eq_ok_iff {outcome : Except Fault α} {a : α} :
    computing outcome = .ok a ↔ outcome = .ok a := by
  cases outcome <;> simp [computing]

/-! ### Outcomes without faults -/

/-- The outcome is a result or a refusal. -/
def Faultless (outcome : Except Failure α) : Prop := ∀ what, outcome ≠ .error (.fault what)

theorem faultless_ok (a : α) : Faultless (.ok a : Except Failure α) := nofun

theorem faultless_refused (why : Refusal) :
    Faultless (.error (.refused why) : Except Failure α) := nofun

theorem faultless_refusing (outcome : Except Refusal α) : Faultless (refusing outcome) :=
  fun _ => refusing_ne_fault

theorem faultless_computing {outcome : Except Fault α} (h : ∃ a, outcome = .ok a) :
    Faultless (computing outcome) := by
  obtain ⟨a, rfl⟩ := h
  exact faultless_ok a

theorem Faultless.bind {first : Except Failure α} {next : α → Except Failure β}
    (hfirst : Faultless first) (hnext : ∀ a, first = .ok a → Faultless (next a)) :
    Faultless (first >>= next) := by
  intro what h
  rcases bind_eq_error_iff.1 h with hfault | ⟨a, ha, hfault⟩
  · exact hfirst what hfault
  · exact hnext a ha what hfault

theorem Faultless.map {outcome : Except Failure α} (h : Faultless outcome) (f : α → β) :
    Faultless (outcome.map f) :=
  fun what hfault => h what (map_eq_error_iff.1 hfault)

/-- A failure that is no fault is none among results of another sort. -/
theorem Faultless.error {failure : Failure} (h : Faultless (.error failure : Except Failure α)) :
    Faultless (.error failure : Except Failure β) :=
  fun what hfault => h what (congrArg Except.error (Except.error.inj hfault))

/-- A faultless outcome that is no result is a refusal. -/
theorem Faultless.ok_or_refused {outcome : Except Failure α} (h : Faultless outcome) :
    (∃ a, outcome = .ok a) ∨ ∃ why, outcome = .error (.refused why) := by
  cases outcome with
  | ok a => exact .inl ⟨a, rfl⟩
  | error failure =>
    cases failure with
    | refused why => exact .inr ⟨why, rfl⟩
    | fault what => exact absurd rfl (h what)

/-! ### Outcomes that a flaw decides -/

/-- The outcome is the refusal for the flaw, if there is one, and else a result that `Holds`. -/
def Decided (flaw? : Option Refusal) (Holds : α → Prop) (outcome : Except Failure α) : Prop :=
  match flaw? with
  | some why => outcome = .error (.refused why)
  | none => ∃ a, outcome = .ok a ∧ Holds a

section Decided

variable {flaw? later? : Option Refusal} {Holds : α → Prop} {Next : β → Prop} {why : Refusal}

theorem decided_ok {a : α} (h : Holds a) : Decided none Holds (.ok a) := ⟨a, rfl, h⟩

theorem Decided.bind {first : Except Failure α} {next : α → Except Failure β}
    (hfirst : Decided flaw? Holds first) (hnext : ∀ a, Holds a → Decided later? Next (next a)) :
    Decided (flaw?.or later?) Next (first >>= next) := by
  cases flaw? with
  | some why =>
    have herror : first = .error (.refused why) := hfirst
    rw [herror]
    rfl
  | none =>
    obtain ⟨a, hok, hholds⟩ := hfirst
    rw [hok]
    exact hnext a hholds

/-- What never fails after a step leaves the decision to the step. -/
theorem Decided.bind_none {first : Except Failure α} {next : α → Except Failure β}
    (hfirst : Decided flaw? Holds first) (hnext : ∀ a, Holds a → Decided none Next (next a)) :
    Decided flaw? Next (first >>= next) := by
  have hbind := hfirst.bind hnext
  rwa [Option.or_none] at hbind

theorem Decided.map {first : Except Failure α} {f : α → β} (hfirst : Decided flaw? Holds first)
    (hnext : ∀ a, Holds a → Next (f a)) :
    Decided flaw? Next (first >>= fun a => Except.ok (f a)) :=
  hfirst.bind_none fun a ha => decided_ok (hnext a ha)

/-- A guard is decided by its own flaw and, where that is missing, by what comes after it. -/
theorem Decided.guard {c d : Prop} [Decidable c] [Decidable d] {rest : Except Refusal α}
    (hiff : c ↔ d) (hrest : ¬d → Decided later? Holds (refusing rest)) :
    Decided ((if d then some why else none).or later?) Holds
      (refusing (if c then .error why else rest)) := by
  by_cases hfails : d
  · rw [if_pos hfails, if_pos (hiff.2 hfails)]
    rfl
  · rw [if_neg hfails, if_neg (mt hiff.1 hfails), Option.none_or]
    exact hrest hfails

theorem Faultless.decided {outcome : Except Failure α} (h : Faultless outcome)
    (hrefused : ∀ why, outcome = .error (.refused why) ↔ flaw? = some why)
    (hholds : ∀ a, outcome = .ok a → Holds a) : Decided flaw? Holds outcome := by
  rcases h.ok_or_refused with ⟨a, hok⟩ | ⟨why, herror⟩
  · have hnone : flaw? = none := by
      rw [Option.eq_none_iff_forall_ne_some]
      intro why hwhy
      have herror := (hrefused why).2 hwhy
      rw [hok] at herror
      cases herror
    rw [hnone, hok]
    exact decided_ok (hholds a hok)
  · rw [(hrefused why).1 herror]
    exact herror

theorem Decided.eq_refused_iff {outcome : Except Failure α} (h : Decided flaw? Holds outcome) :
    outcome = .error (.refused why) ↔ flaw? = some why := by
  cases flaw? with
  | some other =>
    have herror : outcome = .error (.refused other) := h
    simp [herror]
  | none =>
    obtain ⟨a, hok, -⟩ := h
    simp [hok]

theorem Decided.eq_ok_iff {outcome : Except Failure α} (h : Decided flaw? Holds outcome) :
    (∃ a, outcome = .ok a) ↔ flaw? = none := by
  cases flaw? with
  | some why =>
    have herror : outcome = .error (.refused why) := h
    simp [herror]
  | none =>
    obtain ⟨a, hok, -⟩ := h
    simp [hok]

theorem Decided.holds {outcome : Except Failure α} {a : α} (h : Decided flaw? Holds outcome)
    (hok : outcome = .ok a) : Holds a := by
  cases flaw? with
  | some why =>
    have herror : outcome = .error (.refused why) := h
    rw [herror] at hok
    cases hok
  | none =>
    obtain ⟨b, hb, hholds⟩ := h
    rw [hb] at hok
    cases hok
    exact hholds

end Decided

end DepositGate
