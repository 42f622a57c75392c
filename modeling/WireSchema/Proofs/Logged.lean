import WireSchema.Log
import WireSchema.Proofs.Pairs

/-! # Outcomes of logged computations

A logged computation succeeds exactly if each of its steps does.  The lemmas here take a success
apart, so that later proofs need not look into `Logged.andThen` and `Logged.forEach`:

* `bind_outcome_ok` splits a sequence of two steps;
* `forEach_outcome_ok` splits a walk through a list into one success per element;
* `forEach_events_of_ok` lists the events of a walk that succeeds;
* `mem_bind_events` and `mem_forEach_events` lead an event back to the step that reports it;
* `forEach_outcome_error` finds the position that a walk stops at;
* `Alike` relates two computations with like results, `Alike.bind` and `Alike.forEach` put them
  together, and `StopsAt.alike` finds one position for both.
-/

namespace WireSchema.Logged

variable {ε α β : Type}

/-! ## Single steps -/

@[simp] theorem outcome_ofExcept (outcome : Except ε α) :
    (ofExcept outcome).outcome = outcome := rfl

@[simp] theorem outcome_report (event : Event) :
    (report event : Logged ε Unit).outcome = .ok () := rfl

@[simp] theorem outcome_fail (e : ε) : (fail e : Logged ε α).outcome = .error e := rfl

@[simp] theorem ofExcept_ok_bind (a : α) (f : α → Logged ε β) : ofExcept (.ok a) >>= f = f a := rfl

@[simp] theorem ofExcept_error_bind (e : ε) (f : α → Logged ε β) :
    ofExcept (.error e) >>= f = fail e := rfl

/-- A sequence succeeds exactly if its first step does and then the second. -/
theorem bind_outcome_ok {x : Logged ε α} {f : α → Logged ε β} {b : β} :
    (x >>= f).outcome = .ok b ↔ ∃ a, x.outcome = .ok a ∧ (f a).outcome = .ok b := by
  rw [bind_def]
  unfold andThen
  cases first : x.outcome with
  | error e => simp
  | ok a => simp

/-- A sequence whose first step succeeds ends as its second step does. -/
theorem bind_outcome_of_ok {x : Logged ε α} {f : α → Logged ε β} {a : α}
    (first : x.outcome = .ok a) : (x >>= f).outcome = (f a).outcome := by
  rw [bind_def]
  unfold andThen
  rw [first]

@[simp] theorem pure_bind (a : α) (f : α → Logged ε β) : pure a >>= f = f a := rfl

theorem bind_assoc {γ : Type} (x : Logged ε α) (f : α → Logged ε β) (g : β → Logged ε γ) :
    x >>= f >>= g = x >>= fun a => f a >>= g := by
  simp only [bind_def]
  unfold andThen
  cases x.outcome with
  | error e => rfl
  | ok a =>
    dsimp only
    cases (f a).outcome with
    | error e => rfl
    | ok b => simp only [List.append_assoc]

/-- Two sequences are the same if their first steps are, and if the second steps agree on every
    value that the first one can end in. -/
theorem bind_congr {x y : Logged ε α} {f g : α → Logged ε β} (first : x = y)
    (second : ∀ a, x.outcome = .ok a → f a = g a) : x >>= f = y >>= g := by
  subst first
  rw [bind_def, bind_def]
  unfold andThen
  cases ended : x.outcome with
  | error e => rfl
  | ok a => simp only [second a ended]

/-! ## Walks through a list -/

theorem forEach_congr {f g : α → Logged ε β} {as : List α} (same : ∀ a ∈ as, f a = g a) :
    forEach f as = forEach g as := by
  induction as with
  | nil => rfl
  | cons a as inductionHypothesis =>
    have tail := inductionHypothesis fun b member => same b (List.mem_cons_of_mem a member)
    simp only [forEach, same a List.mem_cons_self, tail]

/-- A walk through a list succeeds exactly if every element does, and collects their results. -/
theorem forEach_outcome_ok {f : α → Logged ε β} {as : List α} {bs : List β} :
    (forEach f as).outcome = .ok bs ↔ List.Forall₂ (fun a b => (f a).outcome = .ok b) as bs := by
  induction as generalizing bs with
  | nil =>
    cases bs with
    | nil => simp [forEach]
    | cons b bs => simp [forEach]
  | cons a as inductionHypothesis =>
    simp only [forEach, bind_outcome_ok, outcome_pure, Except.ok.injEq]
    constructor
    · rintro ⟨b, headRuns, rest, tailRuns, rfl⟩
      exact .cons headRuns (inductionHypothesis.mp tailRuns)
    · rintro (_ | ⟨headRuns, tailRuns⟩)
      exact ⟨_, headRuns, _, inductionHypothesis.mpr tailRuns, rfl⟩

/-- Every element of a list that is walked through has its result among those collected. -/
theorem exists_of_forEach {f : α → Logged ε β} {as : List α} {bs : List β} {a : α}
    (walked : (forEach f as).outcome = .ok bs) (member : a ∈ as) :
    ∃ b ∈ bs, (f a).outcome = .ok b := by
  rw [forEach_outcome_ok] at walked
  induction walked with
  | nil => cases member
  | @cons head b _ _ headRuns _ inductionHypothesis =>
    rcases List.mem_cons.mp member with rfl | member
    · exact ⟨b, List.mem_cons_self, headRuns⟩
    · obtain ⟨other, listed, runs⟩ := inductionHypothesis member
      exact ⟨other, List.mem_cons_of_mem _ listed, runs⟩

/-! ## Events -/

theorem bind_events_of_ok {x : Logged ε α} {f : α → Logged ε β} {a : α}
    (first : x.outcome = .ok a) : (x >>= f).events = x.events ++ (f a).events := by
  rw [bind_def]
  unfold andThen
  rw [first]

theorem bind_events_of_error {x : Logged ε α} {f : α → Logged ε β} {e : ε}
    (first : x.outcome = .error e) : (x >>= f).events = x.events := by
  rw [bind_def]
  unfold andThen
  rw [first]

theorem bind_events_of_silent {x : Logged ε α} {f : α → Logged ε β}
    (silent : ∀ a, (f a).events = []) : (x >>= f).events = x.events := by
  cases first : x.outcome with
  | error e => exact bind_events_of_error first
  | ok a => rw [bind_events_of_ok first, silent, List.append_nil]

/-- A walk that succeeds reports what its steps report, one step after the other. -/
theorem forEach_events_of_ok {f : α → Logged ε β} {as : List α} {bs : List β}
    (walked : (forEach f as).outcome = .ok bs) :
    (forEach f as).events = as.flatMap fun a => (f a).events := by
  induction as generalizing bs with
  | nil => rfl
  | cons a as inductionHypothesis =>
    obtain ⟨b, head, tail⟩ := bind_outcome_ok.mp walked
    obtain ⟨rest, tail, _⟩ := bind_outcome_ok.mp tail
    rw [forEach, bind_events_of_ok head, bind_events_of_silent fun _ => rfl,
      inductionHypothesis tail, List.flatMap_cons]

theorem mem_bind_events {x : Logged ε α} {f : α → Logged ε β} {event : Event}
    (member : event ∈ (x >>= f).events) : event ∈ x.events ∨ ∃ a, event ∈ (f a).events := by
  cases first : x.outcome with
  | error e =>
    rw [bind_events_of_error first] at member
    exact .inl member
  | ok a =>
    rw [bind_events_of_ok first, List.mem_append] at member
    exact member.imp_right fun later => ⟨a, later⟩

theorem mem_forEach_events {f : α → Logged ε β} {as : List α} {event : Event}
    (member : event ∈ (forEach f as).events) : ∃ a ∈ as, event ∈ (f a).events := by
  induction as with
  | nil => cases member
  | cons a as inductionHypothesis =>
    rcases mem_bind_events member with head | ⟨b, later⟩
    · exact ⟨a, List.mem_cons_self, head⟩
    · rcases mem_bind_events later with tail | ⟨_, nothing⟩
      · obtain ⟨other, listed, reported⟩ := inductionHypothesis tail
        exact ⟨other, List.mem_cons_of_mem a listed, reported⟩
      · cases nothing

/-! ## Failures -/

theorem bind_outcome_error {x : Logged ε α} {f : α → Logged ε β} {e : ε} :
    (x >>= f).outcome = .error e ↔
      x.outcome = .error e ∨ ∃ a, x.outcome = .ok a ∧ (f a).outcome = .error e := by
  rw [bind_def]
  unfold andThen
  cases first : x.outcome with
  | error e' => simp
  | ok a => simp

/-- A walk through a list stops at a position: the step there fails, and those before succeed. -/
structure StopsAt (f : α → Logged ε β) (as : List α) (position : Nat) (e : ε) : Prop where
  before : ∀ a ∈ as.take position, ∃ b, (f a).outcome = .ok b
  fails : ∃ a, as[position]? = some a ∧ (f a).outcome = .error e

variable {f : α → Logged ε β} {a : α} {as : List α} {position : Nat} {e : ε}

theorem stopsAt_zero : StopsAt f (a :: as) 0 e ↔ (f a).outcome = .error e := by
  constructor
  · rintro ⟨_, _, here, fails⟩
    cases here
    exact fails
  · intro fails
    exact ⟨by simp, a, rfl, fails⟩

theorem stopsAt_succ :
    StopsAt f (a :: as) (position + 1) e ↔
      (∃ b, (f a).outcome = .ok b) ∧ StopsAt f as position e := by
  constructor
  · rintro ⟨before, fails⟩
    rw [List.take_succ_cons, List.forall_mem_cons] at before
    exact ⟨before.1, before.2, fails⟩
  · rintro ⟨head, before, fails⟩
    refine ⟨?_, fails⟩
    rw [List.take_succ_cons, List.forall_mem_cons]
    exact ⟨head, before⟩

/-- A walk fails exactly if it stops somewhere, and then with the error of the step there. -/
theorem forEach_outcome_error :
    (forEach f as).outcome = .error e ↔ ∃ position, StopsAt f as position e := by
  induction as with
  | nil =>
    simp only [forEach, outcome_pure, reduceCtorEq, false_iff, not_exists]
    rintro position ⟨_, _, here, _⟩
    cases here
  | cons a as inductionHypothesis =>
    simp only [forEach, bind_outcome_error, outcome_pure, reduceCtorEq, and_false, exists_false,
      or_false, inductionHypothesis]
    -- the first step fails, or it succeeds and the rest stops one position earlier
    constructor
    · rintro (fails | ⟨b, runs, position, stops⟩)
      · exact ⟨0, stopsAt_zero.mpr fails⟩
      · exact ⟨position + 1, stopsAt_succ.mpr ⟨⟨b, runs⟩, stops⟩⟩
    · rintro ⟨position, stops⟩
      cases position with
      | zero => exact .inl (stopsAt_zero.mp stops)
      | succ position =>
        obtain ⟨⟨b, runs⟩, stops⟩ := stopsAt_succ.mp stops
        exact .inr ⟨b, runs, position, stops⟩

/-! ## Related computations -/

/-- Two outcomes with related results, or with related errors. -/
inductive EndsAlike {γ : Type} (errors : ε → ε → Prop) (results : α → γ → Prop) :
    Except ε α → Except ε γ → Prop where
  | ok {a : α} {c : γ} : results a c → EndsAlike errors results (.ok a) (.ok c)
  | error {e e' : ε} : errors e e' → EndsAlike errors results (.error e) (.error e')

/-- Two computations that report the same, and end alike. -/
structure Alike {γ : Type} (errors : ε → ε → Prop) (results : α → γ → Prop) (x : Logged ε α)
    (y : Logged ε γ) : Prop where
  events : y.events = x.events
  outcome : EndsAlike errors results x.outcome y.outcome

namespace Alike

variable {γ δ : Type} {errors : ε → ε → Prop} {results : α → γ → Prop}

theorem refl (same : ∀ e, errors e e) (x : Logged ε α) : Alike errors Eq x x := by
  refine ⟨rfl, ?_⟩
  cases x.outcome with
  | error e => exact .error (same e)
  | ok a => exact .ok rfl

theorem pure {a : α} {c : γ} (related : results a c) :
    Alike errors results (Pure.pure a) (Pure.pure c) :=
  ⟨rfl, .ok related⟩

theorem bind {next : β → δ → Prop} {x : Logged ε α} {y : Logged ε γ} {f : α → Logged ε β}
    {g : γ → Logged ε δ} (first : Alike errors results x y)
    (second : ∀ a c, results a c → Alike errors next (f a) (g c)) :
    Alike errors next (x >>= f) (y >>= g) := by
  rcases x with ⟨events, ended⟩
  rcases y with ⟨_, ended'⟩
  obtain ⟨rfl, outcome⟩ := first
  cases outcome with
  | error related => exact ⟨rfl, .error related⟩
  | @ok a c related =>
    have rest := second a c related
    refine ⟨?_, rest.outcome⟩
    change _ ++ (g c).events = _ ++ (f a).events
    rw [rest.events]

theorem forEach {pairs : α → γ → Prop} {next : β → δ → Prop} {f : α → Logged ε β}
    {g : γ → Logged ε δ} {as : List α} {cs : List γ} (related : List.Forall₂ pairs as cs)
    (each : ∀ a c, pairs a c → Alike errors next (f a) (g c)) :
    Alike errors (List.Forall₂ next) (Logged.forEach f as) (Logged.forEach g cs) := by
  induction related with
  | nil => exact .pure .nil
  | cons pair _ inductionHypothesis =>
    apply (each _ _ pair).bind
    intro _ _ head
    apply inductionHypothesis.bind
    intro _ _ tail
    exact .pure (.cons head tail)

end Alike

/-- Walks with steps alike stop at one position, if they do. -/
theorem StopsAt.alike {γ δ : Type} {errors : ε → ε → Prop} {pairs : α → γ → Prop}
    {next : β → δ → Prop} {g : γ → Logged ε δ} {cs : List γ} (stops : StopsAt f as position e)
    (related : List.Forall₂ pairs as cs)
    (each : ∀ a c, pairs a c → Alike errors next (f a) (g c)) :
    ∃ e', StopsAt g cs position e' ∧ errors e e' := by
  induction related generalizing position with
  | nil =>
    obtain ⟨_, here, _⟩ := stops.fails
    cases here
  | @cons a c _ _ pair _ inductionHypothesis =>
    have alike := (each a c pair).outcome
    cases position with
    | zero =>
      rw [stopsAt_zero.mp stops] at alike
      generalize ended : (g c).outcome = outcome at alike
      cases alike with
      | error related => exact ⟨_, stopsAt_zero.mpr ended, related⟩
    | succ position =>
      obtain ⟨⟨b, runs⟩, stops⟩ := stopsAt_succ.mp stops
      obtain ⟨e', stops', related⟩ := inductionHypothesis stops
      rw [runs] at alike
      generalize ended : (g c).outcome = outcome at alike
      cases alike with
      | ok _ => exact ⟨e', stopsAt_succ.mpr ⟨⟨_, ended⟩, stops'⟩, related⟩

end WireSchema.Logged
