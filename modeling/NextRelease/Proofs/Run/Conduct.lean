import NextRelease.Run.Basic

/-! Scripts beside others: what a script achieves while its surroundings change the world between
its requests, as long as they keep to what they are allowed. Two strands of which each is allowed
what the other one is prepared for achieve both, in every order of turns. -/

namespace NextRelease

structure Conduct where
  allows : World → World → Prop
  refl : ∀ w, allows w w
  trans : ∀ {u v w}, allows u v → allows v w → allows u w

def Conduct.keeping (holds : World → Prop) : Conduct :=
  ⟨fun w w' => holds w → holds w', fun _ h => h, fun h h' => h' ∘ h⟩

def Script.Meets (host : Host) (lane : Lane) (others own : Conduct) {α : Type}
    (ends : Except Halt α → World → Prop) : Script α → World → Prop
  | .done value, w => ∀ w', others.allows w w' → ends (.ok value) w'
  | .halt cause, w => ∀ w', others.allows w w' → ends (.error cause) w'
  | .ask request next, w => ∀ w', others.allows w w' →
      own.allows w' (request.perform host lane w').2 ∧
        (next (request.perform host lane w').1).Meets host lane others own ends
          (request.perform host lane w').2

namespace Script

variable {host : Host} {lane : Lane} {others own : Conduct} {α β : Type}
  {ends : Except Halt α → World → Prop} {w : World}

theorem Meets.later {script : Script α} {w' : World}
    (h : script.Meets host lane others own ends w) (hothers : others.allows w w') :
    script.Meets host lane others own ends w' := by
  cases script with
  | done value => exact fun u hu => h u (others.trans hothers hu)
  | halt cause => exact fun u hu => h u (others.trans hothers hu)
  | ask request next => exact fun u hu => h u (others.trans hothers hu)

theorem Meets.mono {script : Script α} {ends' : Except Halt α → World → Prop}
    (h : script.Meets host lane others own ends w)
    (himp : ∀ result w, ends result w → ends' result w) :
    script.Meets host lane others own ends' w := by
  induction script generalizing w with
  | done value => exact fun w' hw' => himp _ _ (h w' hw')
  | halt cause => exact fun w' hw' => himp _ _ (h w' hw')
  | ask request next ih => exact fun w' hw' => ⟨(h w' hw').1, ih _ (h w' hw').2⟩

def thenEnds (host : Host) (lane : Lane) (others own : Conduct) (f : α → Script β)
    (ends : Except Halt β → World → Prop) : Except Halt α → World → Prop
  | .ok value, w => (f value).Meets host lane others own ends w
  | .error cause, w => ends (.error cause) w

theorem meets_bind {script : Script α} {f : α → Script β} {ends : Except Halt β → World → Prop}
    (h : script.Meets host lane others own (thenEnds host lane others own f ends) w) :
    (script >>= f).Meets host lane others own ends w := by
  induction script generalizing w with
  | done value => exact h w (others.refl w)
  | halt cause => exact h
  | ask request next ih => exact fun w' hw' => ⟨(h w' hw').1, ih _ (h w' hw').2⟩

theorem Meets.exec {script : Script α} (h : script.Meets host lane others own ends w) :
    own.allows w (script.exec host lane w).2 ∧
      ∀ w', others.allows (script.exec host lane w).2 w' → ends (script.exec host lane w).1 w' := by
  induction script generalizing w with
  | done value => exact ⟨own.refl w, h⟩
  | halt cause => exact ⟨own.refl w, h⟩
  | ask request next ih =>
    obtain ⟨hown, hnext⟩ := h w (others.refl w)
    exact ⟨own.trans hown (ih _ hnext).1, (ih _ hnext).2⟩

end Script

def Standing.Meets {α : Type} (begun : Bool) (ends : Except Halt α → World → Prop) (w : World) :
    Standing α → (other : Standing α) → Prop
  | .ended result, _ => ends result w
  | .going result, _ => ends result w
  | .withdrawn, other => begun = false ∧ ∃ cause, other = .ended (.error cause)

def Strands.Meet {α : Type} (strands : Strands α) (leftBegun rightBegun : Bool)
    (leftEnds rightEnds : Except Halt α → World → Prop) (w : World) : Prop :=
  strands.left.Meets leftBegun leftEnds w strands.right ∧
    strands.right.Meets rightBegun rightEnds w strands.left

namespace Strands

variable {host : Host} {lane leftLane rightLane : Lane} {left right : Conduct} {α : Type}
  {leftEnds rightEnds : Except Halt α → World → Prop}

theorem finish_meets {others own : Conduct} {ends : Except Halt α → World → Prop}
    (patience : Patience) (other : Except Halt α) (begun : Bool) {script : Script α} {w : World}
    (h : script.Meets host lane others own ends w) :
    own.allows w (finish host lane patience other begun script w).2 ∧
      (finish host lane patience other begun script w).1.Meets begun ends
        (finish host lane patience other begun script w).2 (.ended other) := by
  have hexec := And.imp_right (fun hends => hends _ (others.refl _)) h.exec
  unfold finish
  split
  · exact hexec
  · exact hexec
  · exact hexec
  · cases begun with
    | true => exact hexec
    | false => exact ⟨own.refl w, rfl, _, rfl⟩

theorem ends_of_ended? {others own : Conduct} {ends : Except Halt α → World → Prop}
    {script : Script α} {result : Except Halt α} {w w' : World}
    (h : script.Meets host lane others own ends w) (hended : ended? script = some result)
    (hothers : others.allows w w') : ends result w' := by
  cases script with
  | done value => exact Option.some.inj hended ▸ h w' hothers
  | halt cause => exact Option.some.inj hended ▸ h w' hothers
  | ask request next => cases hended

theorem advance_meets {others own : Conduct} {ends : Except Halt α → World → Prop}
    {script : Script α} {w : World} (h : script.Meets host lane others own ends w)
    (hended : ended? script = none) :
    own.allows w (advance host lane script w).2 ∧
      (advance host lane script w).1.Meets host lane others own ends
        (advance host lane script w).2 := by
  cases script with
  | done value => cases hended
  | halt cause => cases hended
  | ask request next => exact h w (others.refl w)

theorem meets_of_begun {begun : Bool} {ends : Except Halt α → World → Prop} {w : World}
    {standing other : Standing α} (h : standing.Meets true ends w other) :
    standing.Meets begun ends w other := by
  cases standing with
  | ended result => exact h
  | going result => exact h
  | withdrawn => exact nomatch h.1

theorem run_of_ended_left (patience : Patience) (turns : List Side) (leftBegun rightBegun : Bool)
    {p q : Script α} {w : World} {a : Except Halt α} (hp : ended? p = some a) :
    run host leftLane rightLane patience turns leftBegun rightBegun p q w =
      (⟨.ended a, (finish host rightLane patience a rightBegun q w).1⟩,
        (finish host rightLane patience a rightBegun q w).2) := by
  unfold run
  simp only [hp]

theorem run_of_ended_right (patience : Patience) (turns : List Side) (leftBegun rightBegun : Bool)
    {p q : Script α} {w : World} {b : Except Halt α} (hp : ended? p = none)
    (hq : ended? q = some b) :
    run host leftLane rightLane patience turns leftBegun rightBegun p q w =
      (⟨(finish host leftLane patience b leftBegun p w).1, .ended b⟩,
        (finish host leftLane patience b leftBegun p w).2) := by
  unfold run
  simp only [hp, hq]

theorem run_nil (patience : Patience) (leftBegun rightBegun : Bool) {p q : Script α} {w : World}
    (hp : ended? p = none) (hq : ended? q = none) :
    run host leftLane rightLane patience [] leftBegun rightBegun p q w =
      let (a, w) := p.exec host leftLane w
      (⟨.ended a, (finish host rightLane patience a rightBegun q w).1⟩,
        (finish host rightLane patience a rightBegun q w).2) := by
  unfold run
  simp only [hp, hq]

theorem run_cons (patience : Patience) (side : Side) (turns : List Side)
    (leftBegun rightBegun : Bool) {p q : Script α} {w : World} (hp : ended? p = none)
    (hq : ended? q = none) :
    run host leftLane rightLane patience (side :: turns) leftBegun rightBegun p q w =
      match side with
      | .left =>
        let (p, w) := advance host leftLane p w
        run host leftLane rightLane patience turns true rightBegun p q w
      | .right =>
        let (q, w) := advance host rightLane q w
        run host leftLane rightLane patience turns leftBegun true p q w := by
  cases side
  · conv => lhs; unfold run
    simp only [hp, hq]
  · conv => lhs; unfold run
    simp only [hp, hq]

theorem run_meets_of_ended_left (patience : Patience) (turns : List Side)
    (leftBegun rightBegun : Bool) {p q : Script α} {w : World} {a : Except Halt α}
    (hp : p.Meets host leftLane right left leftEnds w)
    (hq : q.Meets host rightLane left right rightEnds w) (hended : ended? p = some a) :
    (run host leftLane rightLane patience turns leftBegun rightBegun p q w).1.Meet leftBegun
      rightBegun leftEnds rightEnds
      (run host leftLane rightLane patience turns leftBegun rightBegun p q w).2 := by
  rw [run_of_ended_left _ _ _ _ hended]
  obtain ⟨hconduct, hright⟩ := finish_meets patience a rightBegun hq
  exact ⟨ends_of_ended? hp hended hconduct, hright⟩

theorem run_meets_of_ended_right (patience : Patience) (turns : List Side)
    (leftBegun rightBegun : Bool) {p q : Script α} {w : World} {b : Except Halt α}
    (hp : p.Meets host leftLane right left leftEnds w)
    (hq : q.Meets host rightLane left right rightEnds w) (hgoing : ended? p = none)
    (hended : ended? q = some b) :
    (run host leftLane rightLane patience turns leftBegun rightBegun p q w).1.Meet leftBegun
      rightBegun leftEnds rightEnds
      (run host leftLane rightLane patience turns leftBegun rightBegun p q w).2 := by
  rw [run_of_ended_right _ _ _ _ hgoing hended]
  obtain ⟨hconduct, hleft⟩ := finish_meets patience b leftBegun hp
  exact ⟨hleft, ends_of_ended? hq hended hconduct⟩

theorem run_meets (patience : Patience) (turns : List Side) (leftBegun rightBegun : Bool)
    {p q : Script α} {w : World} (hp : p.Meets host leftLane right left leftEnds w)
    (hq : q.Meets host rightLane left right rightEnds w) :
    (run host leftLane rightLane patience turns leftBegun rightBegun p q w).1.Meet leftBegun
      rightBegun leftEnds rightEnds
      (run host leftLane rightLane patience turns leftBegun rightBegun p q w).2 := by
  induction turns generalizing leftBegun rightBegun p q w with
  | nil =>
    cases hleft : ended? p with
    | some a => exact run_meets_of_ended_left patience [] leftBegun rightBegun hp hq hleft
    | none =>
      cases hright : ended? q with
      | some b =>
        exact run_meets_of_ended_right patience [] leftBegun rightBegun hp hq hleft hright
      | none =>
        rw [run_nil _ _ _ hleft hright]
        obtain ⟨hconduct, hends⟩ := hp.exec
        obtain ⟨hafter, hfinish⟩ := finish_meets patience (p.exec host leftLane w).1 rightBegun
          (hq.later hconduct)
        exact ⟨hends _ hafter, hfinish⟩
  | cons side turns ih =>
    cases hleft : ended? p with
    | some a => exact run_meets_of_ended_left patience _ leftBegun rightBegun hp hq hleft
    | none =>
      cases hright : ended? q with
      | some b =>
        exact run_meets_of_ended_right patience _ leftBegun rightBegun hp hq hleft hright
      | none =>
        rw [run_cons _ _ _ _ _ hleft hright]
        cases side with
        | left =>
          obtain ⟨hconduct, hnext⟩ := advance_meets hp hleft
          have h := ih true rightBegun hnext (hq.later hconduct)
          exact ⟨meets_of_begun h.1, h.2⟩
        | right =>
          obtain ⟨hconduct, hnext⟩ := advance_meets hq hright
          have h := ih leftBegun true (hp.later hconduct) hnext
          exact ⟨h.1, meets_of_begun h.2⟩

end Strands

end NextRelease
