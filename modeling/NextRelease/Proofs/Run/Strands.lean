import NextRelease.Proofs.Run.Conduct
import NextRelease.Proofs.Run.Course

/-! Runs put together of scripts and strands. Whatever turns two strands take, each of them follows a
course of its own, which the record shows as soon as it is read lane by lane. -/

namespace NextRelease

theorem Event.lane_eq {lane other : Lane} {event : Event} (h : event.isIn lane)
    (h' : event.isIn other) : lane = other := by
  have hl : event.lane? = some lane := by simpa [isIn] using h
  have ho : event.lane? = some other := by simpa [isIn] using h'
  exact Option.some.inj (hl.symm.trans ho)

/-- The part of a record that belongs to a lane. -/
def laneRecord (lane : Lane) (record : List Event) : List Event := record.filter (·.isIn lane)

@[simp] theorem laneRecord_append (lane : Lane) (front rest : List Event) :
    laneRecord lane (front ++ rest) = laneRecord lane front ++ laneRecord lane rest :=
  List.filter_append ..

theorem laneRecord_eq_self {lane : Lane} {record : List Event}
    (h : ∀ event ∈ record, event.isIn lane) : laneRecord lane record = record :=
  List.filter_eq_self.2 h

theorem laneRecord_eq_nil {lane other : Lane} {record : List Event} (hne : lane ≠ other)
    (h : ∀ event ∈ record, event.isIn other) : laneRecord lane record = [] :=
  List.filter_eq_nil_iff.2 fun event hevent hlane => hne (Event.lane_eq hlane (h event hevent))

theorem laneRecord_eq_nil_of_or {lane left right : Lane} {record : List Event}
    (hleft : lane ≠ left) (hright : lane ≠ right)
    (h : ∀ event ∈ record, event.isIn left ∨ event.isIn right) : laneRecord lane record = [] :=
  List.filter_eq_nil_iff.2 fun event hevent hlane =>
    (h event hevent).elim (fun h => hleft (Event.lane_eq hlane h))
      fun h => hright (Event.lane_eq hlane h)

def Conduct.adding (lane : Lane) : Conduct where
  allows w w' := ∃ record, w'.events = w.events ++ record ∧ ∀ event ∈ record, event.isIn lane
  refl w := ⟨[], (List.append_nil _).symm, by simp⟩
  trans := by
    rintro u v w ⟨front, hfront, hinFront⟩ ⟨rest, hrest, hinRest⟩
    refine ⟨front ++ rest, by rw [hrest, hfront, List.append_assoc], fun event h => ?_⟩
    exact (List.mem_append.1 h).elim (hinFront event) (hinRest event)

def Script.Followed (host : Host) (lane other : Lane) {α : Type} (script : Script α) (start : World)
    (result : Except Halt α) (w : World) : Prop :=
  ∃ record, w.events = start.events ++ record ∧
    (∀ event ∈ record, event.isIn lane ∨ event.isIn other) ∧
      script.Course host lane (laneRecord lane record) result

structure Strands.Course (host : Host) (leftLane rightLane : Lane) {α : Type} (p q : Script α)
    (record : List Event) (result : Except Halt (α × α)) : Prop where
  lanes : ∀ event ∈ record, event.isIn leftLane ∨ event.isIn rightLane
  ok : ∀ a b, result = .ok (a, b) →
    p.Course host leftLane (laneRecord leftLane record) (.ok a) ∧
      q.Course host rightLane (laneRecord rightLane record) (.ok b)
  error : ∀ cause, result = .error cause →
    p.Course host leftLane (laneRecord leftLane record) (.error cause) ∨
      q.Course host rightLane (laneRecord rightLane record) (.error cause)

theorem Script.meets_followed {host : Host} {lane other : Lane} (hne : lane ≠ other) {α : Type}
    (script : Script α) (w : World) :
    script.Meets host lane (.adding other) (.adding lane)
      (script.Followed host lane other w) w := by
  induction script generalizing w with
  | done value =>
    rintro w' ⟨record, hevents, hin⟩
    exact ⟨record, hevents, fun event h => .inr (hin event h), laneRecord_eq_nil hne hin, rfl⟩
  | halt cause =>
    rintro w' ⟨record, hevents, hin⟩
    exact ⟨record, hevents, fun event h => .inr (hin event h), laneRecord_eq_nil hne hin, rfl⟩
  | ask request next ih =>
    rintro w' ⟨before, hevents, hin⟩
    have hperform := request.events_perform host lane w'
    have hrecord : ∀ event ∈ request.record host lane w', event.isIn lane :=
      fun event h => Request.isIn_of_mem_record h
    refine ⟨⟨_, hperform, hrecord⟩, (ih _ _).mono ?_⟩
    rintro result v ⟨rest, hrest, hinRest, hcourse⟩
    -- What the other strand recorded in the meantime stands before the answer to this request.
    refine ⟨before ++ (request.record host lane w' ++ rest), ?_, ?_, w', laneRecord lane rest, ?_,
      hcourse⟩
    · rw [hrest, hperform, hevents]
      simp only [List.append_assoc]
    · intro event h
      obtain h | h := List.mem_append.1 h
      · exact .inr (hin event h)
      · exact (List.mem_append.1 h).elim (fun h => .inl (hrecord event h)) (hinRest event)
    · rw [laneRecord_append, laneRecord_append, laneRecord_eq_nil hne hin,
        laneRecord_eq_self hrecord, List.nil_append]

theorem Strands.outcome_ok {α : Type} {strands : Strands α} {a b : α}
    (h : strands.outcome = .ok (a, b)) :
    strands.left.result = .ok a ∧ strands.right.result = .ok b := by
  unfold outcome at h
  split at h
  · cases h
  · cases hl : strands.left.result with
    | error cause => rw [hl] at h; cases h
    | ok a' =>
      cases hr : strands.right.result with
      | error cause => rw [hl, hr] at h; cases h
      | ok b' =>
        rw [hl, hr] at h
        cases h
        exact ⟨rfl, rfl⟩

namespace Parallel

variable {α : Type}

theorem mem_of_firstFailure? {standings : List (Standing α)} {cause : Halt}
    (h : firstFailure? standings = some cause) : .ended (.error cause) ∈ standings := by
  fun_induction firstFailure? standings with
  | case1 => cases h
  | case2 => exact Option.some.inj h ▸ List.mem_cons_self
  | case3 standing standings _ ih => exact List.mem_cons_of_mem _ (ih h)

theorem ne_failed_of_firstFailure? {standings : List (Standing α)}
    (h : firstFailure? standings = none) {standing : Standing α} (hmem : standing ∈ standings)
    (cause : Halt) : standing ≠ .ended (.error cause) := by
  fun_induction firstFailure? standings with
  | case1 => cases hmem
  | case2 => cases h
  | case3 first standings hfirst ih =>
    obtain rfl | hmem := List.mem_cons.1 hmem
    · exact hfirst cause
    · exact ih h hmem

end Parallel

section Ends

variable {α : Type} {begun leftBegun rightBegun : Bool} {w : World}
  {closes leftEnds rightEnds : Except Halt α → World → Prop} {standing other : Standing α}

theorem Standing.Meets.ends (h : standing.Meets begun closes w other)
    (hnot : standing ≠ .withdrawn) : closes standing.result w := by
  cases standing with
  | ended result => exact h
  | going result => exact h
  | withdrawn => exact absurd rfl hnot

theorem Standing.ends_of_ok {a : α} (h : standing.Meets begun closes w other)
    (hresult : standing.result = .ok a) : closes (.ok a) w := by
  rw [← hresult]
  refine h.ends ?_
  rintro rfl
  cases hresult

theorem Standing.Meets.ne_withdrawn (h : standing.Meets begun closes w other)
    (hother : ∀ cause, other ≠ .ended (.error cause)) : standing ≠ .withdrawn := by
  rintro rfl
  obtain ⟨_, cause, hcause⟩ := h
  exact hother cause hcause

theorem Strands.Meet.outcome_error {strands : Strands α} {cause : Halt}
    (h : strands.Meet leftBegun rightBegun leftEnds rightEnds w)
    (houtcome : strands.outcome = .error cause) :
    leftEnds (.error cause) w ∨ rightEnds (.error cause) w := by
  obtain ⟨left, right⟩ := strands
  obtain ⟨hleft, hright⟩ := h
  unfold outcome at houtcome
  dsimp only at hleft hright houtcome
  cases hfirst : Parallel.firstFailure? [left, right] with
  | some first =>
    rw [hfirst] at houtcome
    cases houtcome
    have hmem := Parallel.mem_of_firstFailure? hfirst
    simp only [List.mem_cons, List.not_mem_nil, or_false] at hmem
    obtain rfl | rfl := hmem
    · exact .inl hleft
    · exact .inr hright
  | none =>
    -- Neither had failed when the wait was over, so neither was withdrawn.
    have hgoing {standing : Standing α} (hmem : standing ∈ [left, right]) :=
      Parallel.ne_failed_of_firstFailure? hfirst hmem
    have hleft := hleft.ends (hleft.ne_withdrawn (hgoing (by simp)))
    have hright := hright.ends (hright.ne_withdrawn (hgoing (by simp)))
    rw [hfirst] at houtcome
    cases hl : left.result with
    | error failure =>
      rw [hl] at houtcome hleft
      cases houtcome
      exact .inl hleft
    | ok a =>
      cases hr : right.result with
      | error failure =>
        rw [hl, hr] at houtcome
        rw [hr] at hright
        cases houtcome
        exact .inr hright
      | ok b =>
        rw [hl, hr] at houtcome
        cases houtcome

end Ends

namespace Run

variable {host : Host} {α β : Type}

theorem bind_of_ok {run : Run α} {f : α → Run β} {w v : World} {value : α}
    (h : run host w = (.ok value, v)) : (run >>= f) host w = f value host v := by
  change Run.bind run f host w = _
  rw [Run.bind, h]

theorem bind_of_error {run : Run α} {f : α → Run β} {w v : World} {cause : Halt}
    (h : run host w = (.error cause, v)) : (run >>= f) host w = (.error cause, v) := by
  change Run.bind run f host w = _
  rw [Run.bind, h]

theorem bind_ok {run : Run α} {f : α → Run β} {w w' : World} {value : β} :
    (run >>= f) host w = (.ok value, w') ↔
      ∃ middle v, run host w = (.ok middle, v) ∧ f middle host v = (.ok value, w') := by
  constructor
  · intro h
    match hrun : run host w with
    | (.ok middle, v) => exact ⟨middle, v, rfl, (bind_of_ok hrun).symm.trans h⟩
    | (.error cause, v) => cases (bind_of_error hrun).symm.trans h
  · rintro ⟨middle, v, hrun, h⟩
    exact (bind_of_ok hrun).trans h

theorem pure_ok {w w' : World} {value value' : α} :
    (pure value : Run α) host w = (.ok value', w') ↔ value = value' ∧ w = w' := by
  change (Except.ok value, w) = (Except.ok value', w') ↔ _
  simp

theorem both_meets {leftLane rightLane : Lane} {left right : Conduct}
    {leftEnds rightEnds : Except Halt α → World → Prop} {p q : Script α} {w : World}
    (hp : p.Meets host leftLane right left leftEnds w)
    (hq : q.Meets host rightLane left right rightEnds w) :
    ∃ strands : Strands α, (both leftLane rightLane p q host w).1 = strands.outcome ∧
      strands.Meet false false leftEnds rightEnds (both leftLane rightLane p q host w).2 :=
  ⟨_, rfl, Strands.run_meets _ _ _ _ hp hq⟩

theorem both_course {leftLane rightLane : Lane} (hne : leftLane ≠ rightLane) (p q : Script α)
    (w : World) :
    ∃ record, (both leftLane rightLane p q host w).2.events = w.events ++ record ∧
      Strands.Course host leftLane rightLane p q record
        (both leftLane rightLane p q host w).1 := by
  have hp : p.Meets host leftLane _ _ _ w := p.meets_followed hne w
  have hq : q.Meets host rightLane _ _ _ w := q.meets_followed hne.symm w
  obtain ⟨strands, houtcome, hmeet⟩ := both_meets hp hq
  rw [houtcome]
  cases hresult : strands.outcome with
  | ok values =>
    obtain ⟨ha, hb⟩ := Strands.outcome_ok hresult
    obtain ⟨record, hevents, hin, hp⟩ := Standing.ends_of_ok hmeet.1 ha
    obtain ⟨record', hevents', _, hq⟩ := Standing.ends_of_ok hmeet.2 hb
    obtain rfl : record' = record := List.append_cancel_left (hevents'.symm.trans hevents)
    exact ⟨record', hevents, hin, by rintro a b ⟨⟩; exact ⟨hp, hq⟩, by rintro cause ⟨⟩⟩
  | error cause =>
    obtain ⟨record, hevents, hin, hp⟩ | ⟨record, hevents, hin, hq⟩ := hmeet.outcome_error hresult
    · exact ⟨record, hevents, hin, by rintro a b ⟨⟩, by rintro cause ⟨⟩; exact .inl hp⟩
    · exact ⟨record, hevents, fun event hevent => (hin event hevent).symm, by rintro a b ⟨⟩,
        by rintro cause ⟨⟩; exact .inr hq⟩

theorem both_ok {leftLane rightLane : Lane} (hne : leftLane ≠ rightLane) {p q : Script α}
    {w w' : World} {a b : α} (h : both leftLane rightLane p q host w = (.ok (a, b), w')) :
    ∃ record, w'.events = w.events ++ record ∧
      (∀ event ∈ record, event.isIn leftLane ∨ event.isIn rightLane) ∧
      p.Course host leftLane (laneRecord leftLane record) (.ok a) ∧
      q.Course host rightLane (laneRecord rightLane record) (.ok b) := by
  obtain ⟨record, hevents, hcourse⟩ := both_course hne p q w
  rw [h] at hevents hcourse
  exact ⟨record, hevents, hcourse.lanes, hcourse.ok a b rfl⟩

end Run

end NextRelease
