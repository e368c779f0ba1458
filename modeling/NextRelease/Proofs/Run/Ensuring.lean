import NextRelease.Proofs.Run.Requests
import NextRelease.Proofs.Run.Scratch

/-! What runs ensure: how they end and what they add to the record until then, whatever they are
answered. A run put together of parts ensures what follows from what its parts ensure, on every way
out. -/

namespace NextRelease

/-- From a world on, the run only adds to the record; how it ends, what it has added by then and the
world that it leaves are as required. -/
def Run.Ensures {α : Type} (run : Run α) (host : Host) (w : World)
    (ends : Except Halt α → List Event → World → Prop) : Prop :=
  ∃ record, (run host w).2.events = w.events ++ record ∧
    ends (run host w).1 record (run host w).2

/-- Each event of a record, which was made after a past, came only after what it needs. -/
def Guarded (needs : List Event → Event → Prop) (past record : List Event) : Prop :=
  ∀ front event rest, record = front ++ event :: rest → needs (past ++ front) event

section Guarded

variable {needs needs' : List Event → Event → Prop} {past front rest record : List Event}

@[simp] theorem guarded_nil : Guarded needs past [] := by
  rintro front event rest h
  simp at h

theorem guarded_append :
    Guarded needs past (front ++ rest) ↔
      Guarded needs past front ∧ Guarded needs (past ++ front) rest := by
  constructor
  · refine fun h => ⟨fun before event after hfront => ?_, fun before event after hrest => ?_⟩
    · exact h before event (after ++ rest) (by rw [hfront]; simp)
    · rw [List.append_assoc]
      exact h (front ++ before) event after (by rw [hrest]; simp)
  · rintro ⟨hfront, hrest⟩ before event after hall
    obtain ⟨middle, rfl, hmiddle⟩ | ⟨middle, rfl, hmiddle⟩ := List.append_eq_append_iff.1 hall
    · rw [← List.append_assoc]
      exact hrest middle event after hmiddle
    · cases middle with
      | nil =>
        have hlater := hrest [] event after (by simpa using hmiddle.symm)
        simpa using hlater
      | cons first middle =>
        cases hmiddle
        exact hfront before event middle rfl

theorem guarded_cons {event : Event} :
    Guarded needs past (event :: rest) ↔
      needs past event ∧ Guarded needs (past ++ [event]) rest := by
  rw [← List.singleton_append, guarded_append]
  refine and_congr_left fun _ => ⟨fun h => by simpa using h [] event [] rfl, fun h => ?_⟩
  intro front other rest hrecord
  cases front with
  | nil =>
    cases hrecord
    simpa using h
  | cons first front => simp at hrecord

theorem guarded_of_forall (h : ∀ event ∈ record, ∀ front, needs (past ++ front) event) :
    Guarded needs past record := by
  rintro front event rest rfl
  exact h event (by simp) front

end Guarded

/-! ## Parts -/

namespace Run

theorem bind_assoc {α β γ : Type} (run : Run α) (f : α → Run β) (g : β → Run γ) :
    (run >>= f) >>= g = run >>= fun value => f value >>= g := by
  funext host w
  match hrun : run host w with
  | (.ok value, v) =>
    rw [bind_of_ok hrun]
    exact congrArg (fun ended => Run.bind (fun _ _ => ended) g host v) (bind_of_ok hrun)
  | (.error cause, v) => rw [bind_of_error hrun, bind_of_error (bind_of_error hrun)]

theorem bind_pure {α : Type} (run : Run α) : run >>= pure = run := by
  funext host w
  match hrun : run host w with
  | (.ok value, v) => exact bind_of_ok hrun
  | (.error cause, v) => exact bind_of_error hrun

theorem lift_bind {α β : Type} (script : Script α) (f : α → Script β) :
    ((script >>= f : Script β) : Run β) = (script : Run α) >>= fun value => (f value : Run β) := by
  funext host w
  change (script >>= f).exec host .main w = Run.bind (ofScript script) _ host w
  unfold Run.bind ofScript
  exact script.exec_bind host .main f w

variable {host : Host} {α β : Type} {w : World} {ends : Except Halt α → List Event → World → Prop}

theorem Ensures.mono {run : Run α} {ends' : Except Halt α → List Event → World → Prop}
    (h : run.Ensures host w ends)
    (himp : ∀ result record w', ends result record w' → ends' result record w') :
    run.Ensures host w ends' := by
  obtain ⟨record, hevents, hends⟩ := h
  exact ⟨record, hevents, himp _ _ _ hends⟩

theorem Ensures.and {run : Run α} {ends' : Except Halt α → List Event → World → Prop}
    (h : run.Ensures host w ends) (h' : run.Ensures host w ends') :
    run.Ensures host w fun result record w' => ends result record w' ∧ ends' result record w' := by
  obtain ⟨record, hevents, hends⟩ := h
  obtain ⟨record', hevents', hends'⟩ := h'
  obtain rfl : record' = record := List.append_cancel_left (hevents'.symm.trans hevents)
  exact ⟨record', hevents, hends, hends'⟩

theorem Ensures.computed {run : Run α} (h : run.Ensures host w ends) :
    run.Ensures host w fun result record w' =>
      ends result record w' ∧ run host w = (result, w') := by
  obtain ⟨record, hevents, hends⟩ := h
  exact ⟨record, hevents, hends, rfl⟩

theorem Ensures.recorded {run : Run α} (h : run.Ensures host w ends) :
    run.Ensures host w fun result record w' =>
      ends result record w' ∧ w'.events = w.events ++ record := by
  obtain ⟨record, hevents, hends⟩ := h
  exact ⟨record, hevents, hends, hevents⟩

theorem Ensures.performed {run : Run α} (h : run.Ensures host w ends) :
    run.Ensures host w fun result record w' =>
      ends result record w' ∧ run host w = (result, w') := by
  obtain ⟨record, hevents, hends⟩ := h
  exact ⟨record, hevents, hends, rfl⟩

theorem ensures_pure {value : α} (h : ends (.ok value) [] w) :
    (pure value : Run α).Ensures host w ends := ⟨[], (List.append_nil _).symm, h⟩

theorem ensures_halt {cause : Halt} (h : ends (.error cause) [] w) :
    (halt cause : Run α).Ensures host w ends := ⟨[], (List.append_nil _).symm, h⟩

def thenEnds (host : Host) (f : α → Run β) (ends : Except Halt β → List Event → World → Prop) :
    Except Halt α → List Event → World → Prop
  | .ok value, front, v =>
    (f value).Ensures host v fun result rest w' => ends result (front ++ rest) w'
  | .error cause, record, v => ends (.error cause) record v

theorem ensures_bind {run : Run α} {f : α → Run β}
    {ends : Except Halt β → List Event → World → Prop}
    (h : run.Ensures host w (thenEnds host f ends)) : (run >>= f).Ensures host w ends := by
  obtain ⟨front, hfront, hends⟩ := h
  unfold Run.Ensures
  match hrun : run host w with
  | (.error cause, v) =>
    rw [hrun] at hfront hends
    rw [bind_of_error hrun]
    exact ⟨front, hfront, hends⟩
  | (.ok value, v) =>
    rw [hrun] at hfront hends
    rw [bind_of_ok hrun]
    obtain ⟨rest, hrest, hends⟩ := hends
    exact ⟨front ++ rest, by rw [hrest, hfront, List.append_assoc], hends⟩

theorem ensures_lift {script : Script α}
    (h : ∀ record result w', script.exec host .main w = (result, w') →
      w'.events = w.events ++ record → script.Course host .main record result →
        ends result record w') :
    (script : Run α).Ensures host w ends := by
  obtain ⟨record, hevents, hcourse⟩ := script.exec_course host .main w
  exact ⟨record, hevents, h record _ _ rfl hevents hcourse⟩

theorem ensures_both {left right : Command → Prop} {leftLane rightLane : Lane} {p q : Script α}
    {ends : Except Halt (α × α) → List Event → World → Prop} (hne : leftLane ≠ rightLane)
    (hp : p.Only (Request.Asks left)) (hq : q.Only (Request.Asks right))
    (h : ∀ record result w', Strands.Course host leftLane rightLane p q record result →
      (∀ event ∈ record, event.Asks fun command => left command ∨ right command) →
        ends result record w') :
    (both leftLane rightLane p q).Ensures host w ends := by
  obtain ⟨record, hevents, hcourse⟩ := both_course hne p q w
  obtain ⟨record', hevents', hasks⟩ := both_keeps hp hq
    (fun _ hrequest => hrequest.keeps_asked (fun _ => .inl) w)
    (fun _ hrequest => hrequest.keeps_asked (fun _ => .inr) w) leftLane rightLane
    (show w.Asked (fun command => left command ∨ right command) w from
      ⟨[], (List.append_nil _).symm, by simp⟩)
  obtain rfl : record' = record := List.append_cancel_left (hevents'.symm.trans hevents)
  exact ⟨record', hevents, h record' _ _ hcourse hasks⟩

/-! ## What is never recorded -/

abbrev Scriptlike (run : Run α) (host : Host) (w : World) : Prop :=
  run.Ensures host w fun _ record _ => ∀ event ∈ record, event.Asks fun _ => True

theorem scriptlike_bind {run : Run α} {f : α → Run β} (h : run.Scriptlike host w)
    (hf : ∀ value v, (f value).Scriptlike host v) : (run >>= f).Scriptlike host w := by
  refine ensures_bind (h.mono fun result front v hfront => ?_)
  cases result with
  | error cause => exact hfront
  | ok value =>
    unfold thenEnds
    exact (hf value v).mono fun _ rest _ hrest event hevent =>
      (List.mem_append.1 hevent).elim (hfront event) (hrest event)

theorem scriptlike_lift (script : Script α) : (script : Run α).Scriptlike host w :=
  ensures_lift fun _ _ _ _ _ hcourse => hcourse.asks script.asks_any

theorem scriptlike_both {leftLane rightLane : Lane} (hne : leftLane ≠ rightLane) (p q : Script α) :
    (both leftLane rightLane p q).Scriptlike host w :=
  ensures_both hne p.asks_any q.asks_any fun _ _ _ _ hasks event hevent =>
    (hasks event hevent).mono fun _ _ => trivial

theorem ensures_withScratch {stem : String} {base : Option Path} {work : Path → Run α}
    (hfault : ∀ paths fault, Scratch.makeFirst w.files host.cwd paths = .error fault →
      ends (.error (.fault (.files fault))) [.failed .main (.makeScratch paths) w.files fault]
        (w.record (.failed .main (.makeScratch paths) w.files fault)))
    (hwork : ∀ scratch made text, Scratch.make stem base host w = (.ok scratch, made) →
      made.events = w.events ++ [.scratch scratch, .note .main .debug text] →
      (work scratch).Ensures host made fun result worked v => ∀ removed gone w',
        (removeTree scratch Scratch.removeRetries 1).exec host .main v = (gone, w') →
        w'.events = v.events ++ removed →
        (removeTree scratch Scratch.removeRetries 1).Course host .main removed gone →
          ends result (.scratch scratch :: .note .main .debug text :: (worked ++ removed)) w') :
    (withScratch stem base work).Ensures host w ends := by
  unfold Ensures withScratch
  cases hmake : Scratch.make stem base host w with
  | mk result made =>
    cases result with
    | error cause =>
      obtain ⟨paths, fault, hmakes, rfl, rfl⟩ := Scratch.make_error hmake
      exact ⟨_, rfl, hfault paths fault hmakes⟩
    | ok scratch =>
      obtain ⟨text, _, hmade⟩ := Scratch.make_ok hmake
      obtain ⟨worked, hworked, hends⟩ := hwork scratch made text hmake hmade
      obtain ⟨removed, hremoved, hcourse⟩ :=
        (removeTree scratch Scratch.removeRetries 1).exec_course host .main (work scratch host made).2
      refine ⟨.scratch scratch :: .note .main .debug text :: (worked ++ removed), ?_,
        hends removed _ _ rfl hremoved hcourse⟩
      simp only [hremoved, hworked, hmade]
      simp

end Run

end NextRelease
