import Mathlib.Algebra.GroupWithZero.Nat
import Mathlib.Data.List.Forall2
import Mathlib.Logic.Relation
import NextRelease.Run.Parallel

/-! Waiting for calls that go on side by side. Whatever order they begin and end in and whenever the
wait returns, what is reported is every value or the failure of a call that had failed by then, and
the standings that are left are those at which the wait may be over. -/

namespace NextRelease

open Relation

variable {α : Type}

namespace Parallel

/-! ## Schedules -/

/-- A call on its way. What it comes to, if it begins, is fixed but not known before it ends. -/
inductive Stage (α : Type) where
  | queued (result : Except Halt α)
  | begun (result : Except Halt α)
  | settled (standing : Standing α)

inductive Stage.Moves : (hasReturned : Bool) → Stage α → Stage α → Prop
  | begins {hasReturned : Bool} {result : Except Halt α} :
      Moves hasReturned (.queued result) (.begun result)
  | ends {result : Except Halt α} : Moves false (.begun result) (.settled (.ended result))
  | endsLate {result : Except Halt α} : Moves true (.begun result) (.settled (.going result))
  | isWithdrawn {result : Except Halt α} : Moves true (.queued result) (.settled .withdrawn)

/-- Where a call stands if the wait returns and the call ends later. -/
def Stage.standing : Stage α → Standing α
  | queued result => .going result
  | begun result => .going result
  | settled standing => standing

/-- The calls of one wait. -/
structure Pool (α : Type) where
  stages : List (Stage α)
  hasReturned : Bool

/-- One call moves on, or the wait returns because it may be over. -/
inductive Step : Pool α → Pool α → Prop
  | moves {front rest : List (Stage α)} {stage next : Stage α} {hasReturned : Bool} :
      stage.Moves hasReturned next →
        Step ⟨front ++ stage :: rest, hasReturned⟩ ⟨front ++ next :: rest, hasReturned⟩
  | returns {stages : List (Stage α)} : isOver (stages.map Stage.standing) = true →
      Step ⟨stages, false⟩ ⟨stages, true⟩

def Pool.start (calls : List (Except Halt α)) : Pool α := ⟨calls.map .queued, false⟩

def Pool.IsSettled (pool : Pool α) : Prop :=
  pool.hasReturned = true ∧ ∀ stage ∈ pool.stages, ∃ standing, stage = .settled standing

/-- A run of the calls from their start to their end: where they are when the wait returns, and how
they are left. -/
structure Schedule (calls : List (Except Halt α)) (waited settled : List (Stage α)) : Prop where
  before : ReflTransGen Step (Pool.start calls) ⟨waited, false⟩
  isOver : isOver (waited.map Stage.standing) = true
  after : ReflTransGen Step ⟨waited, true⟩ ⟨settled, true⟩
  isSettled : ∀ stage ∈ settled, ∃ standing, stage = .settled standing

/-! ## Failures -/

theorem firstFailure?_append_cons {front rest : List (Standing α)} {standing : Standing α}
    (h : standing.hasEnded = false) :
    firstFailure? (front ++ standing :: rest) = firstFailure? (front ++ rest) := by
  induction front with
  | nil => cases standing <;> first | rfl | cases h
  | cons other front ih =>
    match other with
    | .ended (.error cause) => rfl
    | .ended (.ok value) | .going result | .withdrawn => exact ih

theorem firstFailure?_eq_some {standings : List (Standing α)} {cause : Halt} :
    firstFailure? standings = some cause ↔
      ∃ i : Nat, standings[i]? = some (.ended (.error cause)) ∧
        ∀ j < i, ∀ other, standings[j]? ≠ some (.ended (.error other)) := by
  induction standings with
  | nil => simp [firstFailure?]
  | cons standing standings ih =>
    have skip (h : ∀ other, standing ≠ .ended (.error other)) :
        firstFailure? (standing :: standings) = firstFailure? standings := by
      match standing, h with
      | .ended (.error other), h => exact absurd rfl (h other)
      | .ended (.ok value), _ | .going result, _ | .withdrawn, _ => rfl
    by_cases h : ∃ other, standing = .ended (.error other)
    · obtain ⟨other, rfl⟩ := h
      constructor
      · intro hfirst
        obtain rfl : other = cause := Option.some.inj hfirst
        exact ⟨0, rfl, fun j hj => absurd hj j.not_lt_zero⟩
      · rintro ⟨i, hi, hbefore⟩
        cases i with
        | zero => simpa [firstFailure?] using hi
        | succ i => exact absurd rfl (hbefore 0 i.succ_pos other)
    · rw [not_exists] at h
      rw [skip h, ih]
      constructor
      · rintro ⟨i, hi, hbefore⟩
        refine ⟨i + 1, hi, fun j hj other => ?_⟩
        cases j with
        | zero => simpa using h other
        | succ j => exact hbefore j (Nat.lt_of_succ_lt_succ hj) other
      · rintro ⟨i, hi, hbefore⟩
        cases i with
        | zero => exact absurd (Option.some.inj hi) (h cause)
        | succ i => exact ⟨i, hi, fun j hj => hbefore (j + 1) (Nat.succ_lt_succ hj)⟩

theorem exists_values {calls : List (Except Halt α)}
    (h : firstFailure? (calls.map .ended) = none) : ∃ values : List α, calls = values.map .ok := by
  induction calls with
  | nil => exact ⟨[], rfl⟩
  | cons result calls ih =>
    cases result with
    | error cause => cases h
    | ok value =>
      obtain ⟨values, rfl⟩ := ih h
      exact ⟨value :: values, rfl⟩

theorem gather_map_ok (values : List α) :
    gather ((values.map .ok).map .ended) = .ok values := by
  have hfirst : firstFailure? ((values.map .ok).map Standing.ended) = none := by
    induction values with
    | nil => rfl
    | cons value values ih => exact ih
  have hall : ((values.map .ok).map Standing.ended).mapM Standing.result = .ok values := by
    clear hfirst
    induction values with
    | nil => rfl
    | cons value values ih => simp only [List.map_cons, List.mapM_cons, ih]; rfl
  rw [gather, hfirst]
  exact hall

theorem gather_eq_error {standings : List (Standing α)} {cause : Halt}
    (h : firstFailure? standings = some cause) : gather standings = .error cause := by
  rw [gather, h]

theorem gather_cases {standings : List (Standing α)} (h : isOver standings = true) :
    (∃ values : List α, standings = (values.map .ok).map .ended ∧
      gather standings = .ok values) ∨
    ∃ cause, firstFailure? standings = some cause ∧ gather standings = .error cause := by
  cases hfirst : firstFailure? standings with
  | some cause => exact .inr ⟨cause, rfl, gather_eq_error hfirst⟩
  | none =>
    have hended : ∀ standing ∈ standings, standing.hasEnded = true := by
      simpa [isOver, hfirst] using h
    obtain ⟨calls, rfl⟩ : ∃ calls : List (Except Halt α), standings = calls.map .ended := by
      clear h hfirst
      induction standings with
      | nil => exact ⟨[], rfl⟩
      | cons standing standings ih =>
        obtain ⟨calls, rfl⟩ := ih fun other h => hended other (List.mem_cons_of_mem _ h)
        match standing, hended standing List.mem_cons_self with
        | .ended result, _ => exact ⟨result :: calls, rfl⟩
    obtain ⟨values, rfl⟩ := exists_values hfirst
    exact .inl ⟨values, rfl, gather_map_ok values⟩

/-! ## What a step keeps -/

inductive Stage.Fits : (hasReturned : Bool) → Except Halt α → Stage α → Prop
  | queued {hasReturned : Bool} {result : Except Halt α} :
      Fits hasReturned result (.queued result)
  | begun {hasReturned : Bool} {result : Except Halt α} : Fits hasReturned result (.begun result)
  | ended {hasReturned : Bool} {result : Except Halt α} :
      Fits hasReturned result (.settled (.ended result))
  | going {result : Except Halt α} : Fits true result (.settled (.going result))
  | withdrawn {result : Except Halt α} : Fits true result (.settled .withdrawn)

theorem Stage.Fits.returns {result : Except Halt α} {stage : Stage α}
    (h : stage.Fits false result) : stage.Fits true result := by
  cases h with
  | queued => exact .queued
  | begun => exact .begun
  | ended => exact .ended

theorem Stage.Fits.moves {hasReturned : Bool} {result : Except Halt α} {stage next : Stage α}
    (h : stage.Fits hasReturned result) (hmoves : stage.Moves hasReturned next) :
    next.Fits hasReturned result := by
  cases hmoves with
  | begins => cases h; exact .begun
  | ends => cases h; exact .ended
  | endsLate => cases h; exact .going
  | isWithdrawn => cases h; exact .withdrawn

theorem Stage.Moves.hasEnded {stage next : Stage α} (h : stage.Moves true next) :
    stage.standing.hasEnded = false ∧ next.standing.hasEnded = false := by
  cases h <;> exact ⟨rfl, rfl⟩

structure Pool.Sound (calls : List (Except Halt α)) (pool : Pool α) : Prop where
  fits : List.Forall₂ (fun result stage => stage.Fits pool.hasReturned result) calls pool.stages
  isOver : pool.hasReturned = true → isOver (pool.stages.map Stage.standing) = true

theorem Pool.sound_start (calls : List (Except Halt α)) : (Pool.start calls).Sound calls where
  fits := List.forall₂_map_right_iff.2 (List.forall₂_same.2 fun _ _ => .queued)
  isOver := nofun

theorem isOver_append_cons {front rest : List (Standing α)} {standing other : Standing α}
    (h : standing.hasEnded = false) (hother : other.hasEnded = false)
    (hover : isOver (front ++ standing :: rest) = true) :
    isOver (front ++ other :: rest) = true := by
  have hfirst : firstFailure? (front ++ other :: rest) =
      firstFailure? (front ++ standing :: rest) := by
    rw [firstFailure?_append_cons h, firstFailure?_append_cons hother]
  simpa [isOver, h, hother, hfirst] using hover

theorem forall₂_append_cons {β γ : Type} {R : β → γ → Prop} {xs : List β} {front rest : List γ}
    {y z : γ} (h : List.Forall₂ R xs (front ++ y :: rest)) (hyz : ∀ x, R x y → R x z) :
    List.Forall₂ R xs (front ++ z :: rest) := by
  induction front generalizing xs with
  | nil =>
    cases h with
    | cons hx hrest => exact .cons (hyz _ hx) hrest
  | cons w front ih =>
    cases h with
    | cons hx hrest => exact .cons hx (ih hrest)

theorem Pool.Sound.exists_fits {calls : List (Except Halt α)} {pool : Pool α}
    (h : pool.Sound calls) {stage : Stage α} (hmem : stage ∈ pool.stages) :
    ∃ result, stage.Fits pool.hasReturned result := by
  obtain ⟨i, hi, rfl⟩ := List.getElem_of_mem hmem
  exact ⟨_, h.fits.get (h.fits.length_eq.symm ▸ hi) hi⟩

theorem Pool.Sound.step {calls : List (Except Halt α)} {pool next : Pool α} (h : pool.Sound calls)
    (hstep : Step pool next) : next.Sound calls := by
  cases hstep with
  | returns hover => exact ⟨h.fits.imp fun _ _ => Stage.Fits.returns, fun _ => hover⟩
  | moves hmoves =>
    refine ⟨forall₂_append_cons h.fits fun _ hfits => hfits.moves hmoves, fun hreturned => ?_⟩
    cases hreturned
    have hover := h.isOver rfl
    simp only [List.map_append, List.map_cons] at hover ⊢
    exact isOver_append_cons hmoves.hasEnded.1 hmoves.hasEnded.2 hover

theorem Pool.Sound.run {calls : List (Except Halt α)} {pool next : Pool α} (h : pool.Sound calls)
    (hrun : ReflTransGen Step pool next) : next.Sound calls := by
  induction hrun with
  | refl => exact h
  | tail _ hstep ih => exact ih.step hstep

theorem firstFailure?_run {stages next : List (Stage α)}
    (hrun : ReflTransGen Step ⟨stages, true⟩ ⟨next, true⟩) :
    firstFailure? (next.map Stage.standing) = firstFailure? (stages.map Stage.standing) := by
  have key {pool : Pool α} (h : ReflTransGen Step ⟨stages, true⟩ pool) :
      pool.hasReturned = true ∧ firstFailure? (pool.stages.map Stage.standing) =
        firstFailure? (stages.map Stage.standing) := by
    induction h with
    | refl => exact ⟨rfl, rfl⟩
    | tail _ hstep ih =>
      cases hstep with
      | returns => cases ih.1
      | moves hmoves =>
        -- A call that moves now counts as ended neither before nor after, so it is passed over.
        obtain ⟨hreturned, hfirst⟩ := ih
        cases hreturned
        refine ⟨rfl, Eq.trans ?_ hfirst⟩
        simp only [List.map_append, List.map_cons]
        rw [firstFailure?_append_cons hmoves.hasEnded.1,
          firstFailure?_append_cons hmoves.hasEnded.2]
  exact (key hrun).2

/-! ## Every schedule comes to an end -/

def Stage.weight : Stage α → Nat
  | queued _ => 2
  | begun _ => 1
  | settled _ => 0

def Pool.weight (pool : Pool α) : Nat :=
  (pool.stages.map Stage.weight).sum + if pool.hasReturned then 0 else 1

theorem Step.weight_lt {pool next : Pool α} (h : Step pool next) : next.weight < pool.weight := by
  cases h with
  | returns => simp [Pool.weight]
  | @moves front rest stage next hasReturned hmoves =>
    have hlt : next.weight < stage.weight := by
      cases hmoves <;> simp [Stage.weight]
    simp only [Pool.weight, List.map_append, List.map_cons, List.sum_append, List.sum_cons]
    omega

theorem wellFounded_step : WellFounded fun next pool : Pool α => Step pool next :=
  Subrelation.wf Step.weight_lt (measure Pool.weight).wf

theorem Pool.Sound.progress {calls : List (Except Halt α)} {pool : Pool α} (h : pool.Sound calls) :
    pool.IsSettled ∨ ∃ next, Step pool next := by
  obtain ⟨stages, hasReturned⟩ := pool
  by_cases hall : ∀ stage ∈ stages, ∃ standing, stage = .settled standing
  · cases hasReturned with
    | true => exact .inl ⟨rfl, hall⟩
    | false =>
      -- Before the wait returns a settled call has ended, so all of them have: the wait may return.
      refine .inr ⟨_, .returns ?_⟩
      have hended : ∀ stage ∈ stages, stage.standing.hasEnded = true := by
        intro stage hstage
        obtain ⟨standing, rfl⟩ := hall stage hstage
        obtain ⟨result, hfits⟩ := h.exists_fits hstage
        cases hfits with
        | ended => rfl
      simpa [Parallel.isOver] using Or.inl hended
  · push Not at hall
    obtain ⟨stage, hmem, hne⟩ := hall
    obtain ⟨front, rest, rfl⟩ := List.append_of_mem hmem
    refine .inr ?_
    cases stage with
    | queued result => exact ⟨_, .moves .begins⟩
    | begun result =>
      cases hasReturned with
      | false => exact ⟨_, .moves .ends⟩
      | true => exact ⟨_, .moves .endsLate⟩
    | settled standing => exact absurd rfl (hne standing)

/-! ## What is reported -/

section

variable {calls : List (Except Halt α)} {waited settled : List (Stage α)}

theorem exists_schedule {pool : Pool α} (hrun : ReflTransGen Step (Pool.start calls) pool)
    (hsettled : pool.IsSettled) : ∃ waited, Schedule calls waited pool.stages := by
  have key : pool.hasReturned = true → ∃ waited,
      ReflTransGen Step (Pool.start calls) ⟨waited, false⟩ ∧
      isOver (waited.map Stage.standing) = true ∧
      ReflTransGen Step ⟨waited, true⟩ ⟨pool.stages, true⟩ := by
    clear hsettled
    induction hrun with
    | refl => nofun
    | tail hbefore hstep ih =>
      cases hstep with
      | returns hover => exact fun _ => ⟨_, hbefore, hover, .refl⟩
      | moves hmoves =>
        intro hreturned
        cases hreturned
        obtain ⟨waited, hwaited, hover, hafter⟩ := ih rfl
        exact ⟨waited, hwaited, hover, hafter.tail (.moves hmoves)⟩
  obtain ⟨waited, hbefore, hover, hafter⟩ := key hsettled.1
  exact ⟨waited, hbefore, hover, hafter, hsettled.2⟩

theorem Schedule.sound_waited (h : Schedule calls waited settled) :
    Pool.Sound calls ⟨waited, true⟩ :=
  ((Pool.sound_start calls).run h.before).step (.returns h.isOver)

theorem Schedule.sound (h : Schedule calls waited settled) : Pool.Sound calls ⟨settled, true⟩ :=
  h.sound_waited.run h.after

theorem Stage.Fits.eq_of_ended {result other : Except Halt α} {stage : Stage α}
    (h : stage.Fits true result) (hended : stage.standing = .ended other) : result = other := by
  cases h with
  | ended => exact Standing.ended.inj hended
  | queued | begun | going | withdrawn => cases hended

theorem Stage.standing_eq_ended {result : Except Halt α} {stage : Stage α} :
    stage.standing = .ended result ↔ stage = .settled (.ended result) := by
  cases stage <;> simp [standing]

theorem Pool.Sound.eq_of_ended {results : List (Except Halt α)}
    (h : Pool.Sound calls ⟨settled, true⟩)
    (hended : settled.map Stage.standing = results.map .ended) : calls = results := by
  have hfits : List.Forall₂ (fun result stage => Stage.Fits true result stage) calls settled :=
    h.fits
  clear h
  induction hfits generalizing results with
  | nil =>
    cases results with
    | nil => rfl
    | cons => cases hended
  | cons hstage _ ih =>
    cases results with
    | nil => cases hended
    | cons result results =>
      obtain ⟨hfirst, hrest⟩ := List.cons.inj hended
      rw [hstage.eq_of_ended hfirst, ih hrest]

theorem Pool.Sound.getElem?_of_ended {result : Except Halt α} {i : Nat}
    (h : Pool.Sound calls ⟨settled, true⟩)
    (hended : settled[i]? = some (.settled (.ended result))) : calls[i]? = some result := by
  obtain ⟨hi, hget⟩ := List.getElem?_eq_some_iff.1 hended
  have hcalls : i < calls.length := h.fits.length_eq.symm ▸ hi
  have hfits := h.fits.get hcalls hi
  rw [List.getElem?_eq_getElem hcalls]
  exact congrArg some (hfits.eq_of_ended (Stage.standing_eq_ended.2 hget))

theorem Schedule.gather_cases (h : Schedule calls waited settled) :
    (∃ values, calls = values.map .ok ∧ gather (settled.map Stage.standing) = .ok values) ∨
    ∃ (i : Nat) (cause : Halt), gather (settled.map Stage.standing) = .error cause ∧
      calls[i]? = some (.error cause) ∧ waited[i]? = some (.settled (.ended (.error cause))) ∧
        ∀ j < i, ∀ other, waited[j]? ≠ some (.settled (.ended (.error other))) := by
  have hstage {i : Nat} {result : Except Halt α} :
      (waited.map Stage.standing)[i]? = some (.ended result) ↔
        waited[i]? = some (.settled (.ended result)) := by
    rw [List.getElem?_map, Option.map_eq_some_iff]
    exact ⟨fun ⟨_, hget, heq⟩ => hget.trans (congrArg some (Stage.standing_eq_ended.1 heq)),
      fun hget => ⟨_, hget, rfl⟩⟩
  obtain ⟨values, hended, hvalues⟩ | ⟨cause, hfirst, hcause⟩ :=
    Parallel.gather_cases (h.sound.isOver rfl)
  · exact .inl ⟨values, h.sound.eq_of_ended hended, hvalues⟩
  · rw [firstFailure?_run h.after] at hfirst
    obtain ⟨i, hi, hbefore⟩ := firstFailure?_eq_some.1 hfirst
    refine .inr ⟨i, cause, hcause, h.sound_waited.getElem?_of_ended (hstage.1 hi), hstage.1 hi, ?_⟩
    exact fun j hj other hother => hbefore j hj other (hstage.2 hother)

end

/-! ## The schedules there are -/

def Stage.beforeReturn : Standing α → Stage α
  | .ended result => .settled (.ended result)
  | .going result => .begun result
  | .withdrawn => .queued (.error (.fault .withdrawn))

theorem run_map {β : Type} {hasReturned : Bool} {f g : β → Stage α}
    (h : ∀ x, ReflTransGen (Stage.Moves hasReturned) (f x) (g x)) (xs : List β)
    (front : List (Stage α)) :
    ReflTransGen Step ⟨front ++ xs.map f, hasReturned⟩ ⟨front ++ xs.map g, hasReturned⟩ := by
  induction xs generalizing front with
  | nil => exact .refl
  | cons x xs ih =>
    have hfirst : ReflTransGen Step ⟨front ++ f x :: xs.map f, hasReturned⟩
        ⟨front ++ g x :: xs.map f, hasReturned⟩ :=
      (h x).lift (fun stage => Pool.mk (front ++ stage :: xs.map f) hasReturned)
        fun _ _ => Step.moves
    have hrest := ih (front ++ [g x])
    simp only [List.append_assoc, List.singleton_append] at hrest
    exact hfirst.trans hrest

theorem firstFailure?_beforeReturn (standings : List (Standing α)) :
    firstFailure? (standings.map fun standing => (Stage.beforeReturn standing).standing) =
      firstFailure? standings := by
  induction standings with
  | nil => rfl
  | cons standing standings ih =>
    match standing with
    | .ended (.error cause) => rfl
    | .ended (.ok value) | .going result | .withdrawn => exact ih

theorem isOver_beforeReturn {standings : List (Standing α)} (h : isOver standings = true) :
    isOver (standings.map fun standing => (Stage.beforeReturn standing).standing) = true := by
  have hended (standing : Standing α) :
      (Stage.beforeReturn standing).standing.hasEnded = standing.hasEnded := by
    cases standing <;> rfl
  simpa [isOver, firstFailure?_beforeReturn, hended] using h

theorem exists_schedule_of_isOver {standings : List (Standing α)}
    (h : isOver standings = true) : ∃ waited settled,
      Schedule (standings.map Standing.result) waited settled ∧
        settled.map Stage.standing = standings := by
  refine ⟨standings.map Stage.beforeReturn, standings.map .settled, ⟨?_, ?_, ?_, ?_⟩, ?_⟩
  · rw [Pool.start, List.map_map]
    refine run_map (fun standing => ?_) standings []
    cases standing with
    | ended result => exact .tail (.single .begins) .ends
    | going result => exact .single .begins
    | withdrawn => exact .refl
  · rw [List.map_map]
    exact isOver_beforeReturn h
  · refine run_map (fun standing => ?_) standings []
    cases standing with
    | ended result => exact .refl
    | going result => exact .single .endsLate
    | withdrawn => exact .single .isWithdrawn
  · simp
  · rw [List.map_map]
    exact List.map_id _

theorem exists_schedule_all {calls : List (Except Halt α)} (hne : calls ≠ []) :
    ∃ waited settled, Schedule calls waited settled ∧
      gather (settled.map Stage.standing) = all calls := by
  have hover : isOver (calls.map Standing.ended) = true := by simp [isOver, Standing.hasEnded]
  obtain ⟨waited, settled, hschedule, hsettled⟩ := exists_schedule_of_isOver hover
  have hresults : (calls.map Standing.ended).map Standing.result = calls := by
    rw [List.map_map]
    exact List.map_id calls
  refine ⟨waited, settled, hresults ▸ hschedule, ?_⟩
  rw [hsettled, all, if_neg (by simpa using hne)]

/-- Whatever the calls come to, each schedule of them comes to an end, and there is one under which
all of them end before the wait returns. All values are reported, in order, exactly if no call
fails. Otherwise the failure of a call is reported: that of the lowest position among those that
have ended by the time the wait returns. So if one call alone fails, its failure is reported under
each schedule. -/
theorem gather_of_schedule {calls : List (Except Halt α)} (hne : calls ≠ []) :
    (WellFounded fun next pool : Pool α => Step pool next) ∧
    (∀ pool, ReflTransGen Step (Pool.start calls) pool → (∃ next, Step pool next) ∨
      ∃ waited, Schedule calls waited pool.stages) ∧
    (∃ waited settled, Schedule calls waited settled ∧
      gather (settled.map Stage.standing) = all calls) ∧
    ∀ waited settled, Schedule calls waited settled →
      (∀ values, gather (settled.map Stage.standing) = .ok values ↔ calls = values.map .ok) ∧
      (∀ cause, gather (settled.map Stage.standing) = .error cause →
        ∃ i : Nat, calls[i]? = some (.error cause) ∧
          waited[i]? = some (.settled (.ended (.error cause))) ∧
          ∀ j < i, ∀ other, waited[j]? ≠ some (.settled (.ended (.error other)))) ∧
      ∀ (i : Nat) (cause : Halt), calls[i]? = some (.error cause) →
        (∀ (j : Nat) (other : Halt), calls[j]? = some (.error other) → j = i) →
        gather (settled.map Stage.standing) = .error cause := by
  have hfails {values : List α} {i : Nat} {cause : Halt}
      (hcalls : calls = values.map .ok) : calls[i]? ≠ some (.error cause) := by
    simp [hcalls]
  refine ⟨wellFounded_step, fun pool hrun => ?_, exists_schedule_all hne, ?_⟩
  · obtain hsettled | hnext := ((Pool.sound_start calls).run hrun).progress
    · exact .inr (exists_schedule hrun hsettled)
    · exact .inl hnext
  · intro waited settled h
    obtain ⟨values, hcalls, hvalues⟩ | ⟨i, cause, hcause, hcall, hwaited, hbefore⟩ := h.gather_cases
    · refine ⟨fun other => ?_, fun cause hcause => ?_, fun i cause hi _ => ?_⟩
      · rw [hvalues, hcalls, (List.map_injective_iff.2 fun _ _ => Except.ok.inj).eq_iff,
          Except.ok.injEq]
      · rw [hvalues] at hcause
        cases hcause
      · exact absurd hi (hfails hcalls)
    · refine ⟨fun values => ⟨fun hvalues => ?_, fun hcalls => ?_⟩, fun other hother => ?_,
        fun j other hj honly => ?_⟩
      · rw [hcause] at hvalues
        cases hvalues
      · exact absurd hcall (hfails hcalls)
      · rw [hcause] at hother
        cases hother
        exact ⟨i, hcall, hwaited, hbefore⟩
      · obtain rfl := honly i cause hcall
        rw [hcall] at hj
        cases hj
        exact hcause

/-- Of three calls the first has not begun and the second, which fails as well, has not ended when
the third one fails: the wait returns, the first one is withdrawn, and the third failure is
reported. -/
theorem gather_of_schedule_third :
    let calls : List (Except Halt Nat) :=
      [.ok 1, .error (.fault .nestingTooDeep), .error (.fault .undecodable)]
    let settled : List (Stage Nat) :=
      [.settled .withdrawn, .settled (.going (.error (.fault .nestingTooDeep))),
        .settled (.ended (.error (.fault .undecodable)))]
    calls ≠ [] ∧ (∃ waited, Schedule calls waited settled) ∧
      gather (settled.map Stage.standing) = .error (.fault .undecodable) ∧
      ∀ values, gather (settled.map Stage.standing) ≠ .ok values := by
  intro calls settled
  have hne : calls ≠ [] := List.cons_ne_nil _ _
  let first : Stage Nat := .queued (.ok 1)
  let second : Except Halt Nat := .error (.fault .nestingTooDeep)
  let third : Except Halt Nat := .error (.fault .undecodable)
  have secondBegins := @Step.moves _ [first] [.queued third] _ _ false
    (@Stage.Moves.begins _ _ second)
  have thirdBegins := @Step.moves _ [first, .begun second] [] _ _ false
    (@Stage.Moves.begins _ _ third)
  have thirdEnds := @Step.moves _ [first, .begun second] [] _ _ false (@Stage.Moves.ends _ third)
  have firstLeaves := @Step.moves _ [] [.begun second, .settled (.ended third)] _ _ true
    (@Stage.Moves.isWithdrawn _ (.ok 1))
  have secondEnds := @Step.moves _ [.settled .withdrawn] [.settled (.ended third)] _ _ true
    (@Stage.Moves.endsLate _ second)
  have hschedule : Schedule calls [first, .begun second, .settled (.ended third)] settled :=
    ⟨((ReflTransGen.single secondBegins).tail thirdBegins).tail thirdEnds, rfl,
      (ReflTransGen.single firstLeaves).tail secondEnds, by simp [settled]⟩
  obtain ⟨_, _, _, hgather⟩ := gather_of_schedule hne
  obtain ⟨hvalues, _, _⟩ := hgather _ _ hschedule
  refine ⟨hne, ⟨_, hschedule⟩, rfl, fun values h => ?_⟩
  have hmem : second ∈ values.map Except.ok :=
    (hvalues values).1 h ▸ List.mem_cons_of_mem _ List.mem_cons_self
  simp [second] at hmem

end Parallel

namespace Strands

theorem isOver_finish {host : Host} {lane : Lane} {patience : Patience} {other : Except Halt α}
    {begun : Bool} {script : Script α} {w : World} :
    Parallel.isOver [.ended other, (finish host lane patience other begun script w).1] = true ∧
      Parallel.isOver [(finish host lane patience other begun script w).1, .ended other] =
        true := by
  cases other with
  | ok value => exact ⟨rfl, rfl⟩
  | error cause =>
    generalize (finish host lane patience (.error cause) begun script w).1 = standing
    match standing with
    | .ended (.error _) | .ended (.ok _) | .going _ | .withdrawn => exact ⟨rfl, rfl⟩

theorem isOver_run (host : Host) (leftLane rightLane : Lane) (patience : Patience)
    (turns : List Side) (leftBegun rightBegun : Bool) (p q : Script α) (w : World) :
    let strands := (run host leftLane rightLane patience turns leftBegun rightBegun p q w).1
    Parallel.isOver [strands.left, strands.right] = true := by
  induction turns generalizing leftBegun rightBegun p q w with
  | nil =>
    unfold run
    split
    · exact isOver_finish.1
    · exact isOver_finish.2
    · exact isOver_finish.1
  | cons side turns ih =>
    unfold run
    split
    · exact isOver_finish.1
    · exact isOver_finish.2
    · cases side with
      | left => exact ih ..
      | right => exact ih ..

theorem exists_schedule_run (host : Host) (leftLane rightLane : Lane) (patience : Patience)
    (turns : List Side) (p q : Script α) (w : World) :
    let strands := (run host leftLane rightLane patience turns false false p q w).1
    ∃ waited settled, Parallel.Schedule [strands.left.result, strands.right.result] waited settled ∧
      settled.map Parallel.Stage.standing = [strands.left, strands.right] :=
  Parallel.exists_schedule_of_isOver (isOver_run host leftLane rightLane patience turns _ _ p q w)

theorem gather_eq_map (strands : Strands α) :
    Parallel.gather [strands.left, strands.right] =
      strands.outcome.map fun values => [values.1, values.2] := by
  unfold outcome Parallel.gather
  cases Parallel.firstFailure? [strands.left, strands.right] with
  | some cause => rfl
  | none =>
    cases hleft : strands.left.result <;> cases hright : strands.right.result <;>
      simp only [List.mapM_cons, List.mapM_nil, hleft, hright] <;> rfl

end Strands

end NextRelease
