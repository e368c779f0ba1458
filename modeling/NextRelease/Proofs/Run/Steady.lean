import NextRelease.Proofs.Files.Looking
import NextRelease.Proofs.Run.Requests
import NextRelease.Proofs.Run.Territory

/-! Steady scripts: whatever others do in places of their own, a steady script is answered as if it
were alone. So two steady scripts side by side end as they do one after the other, in either order. -/

namespace NextRelease

open FileTree

structure Post where
  lane : Lane
  other : Lane
  own : Place → Prop
  others : Place → Prop
  ne : lane ≠ other
  apart : ∀ place, own place → ¬others place

def Conduct.and (conduct conduct' : Conduct) : Conduct where
  allows w w' := conduct.allows w w' ∧ conduct'.allows w w'
  refl w := ⟨conduct.refl w, conduct'.refl w⟩
  trans h h' := ⟨conduct.trans h.1 h'.1, conduct'.trans h.2 h'.2⟩

namespace Post

variable (post : Post)

def conduct : Conduct := (Conduct.within post.own).and (.adding post.lane)

def beside : Post := ⟨post.other, post.lane, post.others, post.own, post.ne.symm,
  fun place hothers hown => post.apart place hown hothers⟩

structure Alike (alone w : World) : Prop where
  files : AgreeOutside post.others alone.files w.files
  commands : commandsOf (laneRecord post.lane w.events) =
    commandsOf (laneRecord post.lane alone.events)

variable {post}

theorem Alike.refl (w : World) : post.Alike w w := ⟨.refl _ _, rfl⟩

theorem Alike.later {alone w w' : World} (h : post.Alike alone w)
    (hothers : post.beside.conduct.allows w w') : post.Alike alone w' := by
  obtain ⟨hfiles, record, hevents, hin⟩ := hothers
  refine ⟨h.files.trans hfiles, ?_⟩
  rw [hevents, laneRecord_append, laneRecord_eq_nil post.ne hin, List.append_nil, h.commands]

end Post

structure Request.SteadyAt (host : Host) (post : Post) {β : Type} (request : Request β)
    (after : β → FileTree → Prop) (alone w : World) : Prop where
  answer : (request.perform host post.lane w).1 = (request.perform host post.lane alone).1
  own : AgreeOutside post.own w.files (request.perform host post.lane w).2.files
  files : AgreeOutside post.others (request.perform host post.lane alone).2.files
    (request.perform host post.lane w).2.files
  after : after (request.perform host post.lane alone).1
    (request.perform host post.lane alone).2.files

def Request.Steady (host : Host) (post : Post) (before : FileTree → Prop) {β : Type}
    (request : Request β) (after : β → FileTree → Prop) : Prop :=
  ∀ alone w : World, before alone.files → AgreeOutside post.others alone.files w.files →
    request.SteadyAt host post after alone w

def Request.Calm (host : Host) (post : Post) (holds : FileTree → Prop) {β : Type}
    (request : Request β) : Prop := request.Steady host post holds fun _ => holds

structure Post.EndsAs (post : Post) {α : Type} (alone : Except Halt α × World)
    (after : α → FileTree → Prop) (result : Except Halt α) (w : World) : Prop where
  same : result = alone.1
  alike : post.Alike alone.2 w
  after : ∀ value, result = .ok value → after value alone.2.files

def Script.Steady (host : Host) (post : Post) (before : FileTree → Prop) {α : Type}
    (script : Script α) (after : α → FileTree → Prop) : Prop :=
  ∀ alone w : World, before alone.files → post.Alike alone w →
    script.Meets host post.lane post.beside.conduct post.conduct
      (post.EndsAs (script.exec host post.lane alone) after) w

namespace Request

variable {host : Host} {post : Post} {holds : FileTree → Prop}

theorem commandsOf_record {lane : Lane} {β : Type} {request : Request β} {w w' : World}
    (h : (request.perform host lane w').1 = (request.perform host lane w).1) :
    commandsOf (request.record host lane w') = commandsOf (request.record host lane w) := by
  unfold record
  rw [commandsOf_append, commandsOf_append, commandsOf_failures, commandsOf_failures]
  cases request with
  | run command =>
    change [(command, (host.runner.respond w'.events w'.files command).1)] ++ [] =
      [(command, (host.runner.respond w.events w.files command).1)] ++ []
    exact congrArg (fun reply => [(command, reply)] ++ []) h
  | _ => rfl

theorem calm_note (level : Level) (text : String) : (note level text).Calm host post holds :=
  fun _ _ hholds hagree => ⟨rfl, .refl _ _, hagree, hholds⟩

theorem steadyAt_update {request : Request (Except FileFault Unit)}
    (operate : FileTree → Except FileFault FileTree) {after : FileTree → Prop} {alone w : World}
    (hperform : ∀ u : World, ∃ events operation, request.perform host post.lane u =
      World.update { u with events } post.lane operation (operate u.files))
    (hagree : AgreeOutside post.others alone.files w.files)
    (h : (∃ fault, operate alone.files = .error fault ∧ operate w.files = .error fault) ∨
      ∃ tree tree', operate alone.files = .ok tree ∧ operate w.files = .ok tree' ∧
        AgreeOutside post.own w.files tree' ∧ AgreeOutside post.others tree tree' ∧ after tree) :
    request.SteadyAt host post (fun answer tree => ∀ value, answer = .ok value → after tree) alone w := by
  obtain ⟨events, operation, halone⟩ := hperform alone
  obtain ⟨events', operation', hw⟩ := hperform w
  obtain ⟨fault, hfault, hfault'⟩ | ⟨tree, tree', htree, htree', hown, hothers, hafter⟩ := h
  · rw [hfault] at halone
    rw [hfault'] at hw
    refine ⟨by simp [halone, hw], ?_, ?_, by rw [halone]; rintro _ ⟨⟩⟩
    · rw [hw, World.update_error, World.files_look]
      exact .refl _ _
    · rw [halone, hw, World.update_error, World.update_error, World.files_look, World.files_look]
      exact hagree
  · rw [htree] at halone
    rw [htree'] at hw
    exact ⟨by rw [halone, hw]; rfl, by rw [hw]; exact hown, by rw [halone, hw]; exact hothers,
      by rw [halone]; exact fun _ _ => hafter⟩

theorem steadyAt_look {β : Type} {request : Request (Except FileFault β)}
    (look : FileTree → Except FileFault β) {alone w : World}
    (hperform : ∀ u : World, ∃ events operation, request.perform host post.lane u =
      World.look { u with events } post.lane operation (look u.files))
    (hsame : look w.files = look alone.files)
    (hagree : AgreeOutside post.others alone.files w.files) (hholds : holds alone.files) :
    request.SteadyAt host post (fun _ => holds) alone w := by
  obtain ⟨events, operation, halone⟩ := hperform alone
  obtain ⟨events', operation', hw⟩ := hperform w
  constructor <;> simp only [halone, hw, World.fst_look, World.files_look, hsame]
  · exact .refl _ _
  · exact hagree
  · exact hholds

section Looking

variable {path : Path}
  (h : ∀ tree, holds tree → ∀ place, tree.Looks mostLinks [] (path.route host.cwd).names place →
    ¬post.others place)

include h

theorem calm_status : (status path).Calm host post holds := fun alone w hholds hagree => by
  refine steadyAt_look (·.status _) (fun u => ⟨u.events, _, rfl⟩) ?_ hagree hholds
  exact status_congr fun place hlooks => hagree place (h _ hholds place hlooks)

theorem calm_read : (read path).Calm host post holds := fun alone w hholds hagree => by
  refine steadyAt_look (·.read _) (fun u => ⟨_, _, rfl⟩) ?_ hagree hholds
  exact read_congr fun place hlooks => hagree place (h _ hholds place hlooks)

end Looking

end Request

namespace Script

variable {host : Host} {post : Post} {α β : Type} {before : FileTree → Prop}
  {after : α → FileTree → Prop}

theorem steady_done {value : α} (h : ∀ tree, before tree → after value tree) :
    (done value).Steady host post before after :=
  fun _ _ hbefore halike _ hothers =>
    ⟨rfl, halike.later hothers, by rintro _ ⟨⟩; exact h _ hbefore⟩

theorem steady_halt {cause : Halt} : (halt cause : Script α).Steady host post before after :=
  fun _ _ _ halike _ hothers => ⟨rfl, halike.later hothers, by rintro _ ⟨⟩⟩

theorem steady_ask {request : Request β} {next : β → Script α} {middle : β → FileTree → Prop}
    (h : request.Steady host post before middle)
    (hnext : ∀ answer, (next answer).Steady host post (middle answer) after) :
    (ask request next).Steady host post before after := by
  intro alone w hbefore halike w' hothers
  have halike' := halike.later hothers
  have hsteady := h alone w' hbefore halike'.files
  have hadds (u : World) : (request.perform host post.lane u).2.events =
      u.events ++ request.record host post.lane u := request.events_perform host post.lane u
  have hlane (u : World) : laneRecord post.lane (request.record host post.lane u) =
      request.record host post.lane u :=
    laneRecord_eq_self fun _ hevent => Request.isIn_of_mem_record hevent
  have hperformed : post.Alike (request.perform host post.lane alone).2
      (request.perform host post.lane w').2 := by
    refine ⟨hsteady.files, ?_⟩
    rw [hadds, hadds, laneRecord_append, laneRecord_append, hlane, hlane, commandsOf_append,
      commandsOf_append, halike'.commands, Request.commandsOf_record hsteady.answer]
  refine ⟨⟨hsteady.own, _, hadds w', fun _ hevent => Request.isIn_of_mem_record hevent⟩, ?_⟩
  rw [hsteady.answer]
  exact hnext _ _ _ hsteady.after hperformed

theorem exec_bind_of_ok {lane : Lane} {script : Script α} {f : α → Script β} {w : World}
    {value : α} (h : (script.exec host lane w).1 = .ok value) :
    (script >>= f).exec host lane w = (f value).exec host lane (script.exec host lane w).2 := by
  rw [exec_bind]
  split
  · next value' w' hexec =>
    rw [hexec] at h ⊢
    rw [Except.ok.inj h]
  · next cause w' hexec =>
    rw [hexec] at h
    cases h

theorem exec_bind_of_error {lane : Lane} {script : Script α} {f : α → Script β} {w : World}
    {cause : Halt} (h : (script.exec host lane w).1 = .error cause) :
    (script >>= f).exec host lane w = (.error cause, (script.exec host lane w).2) := by
  rw [exec_bind]
  split
  · next value w' hexec =>
    rw [hexec] at h
    cases h
  · next cause' w' hexec =>
    rw [hexec] at h ⊢
    rw [Except.error.inj h]

theorem steady_bind {script : Script α} {f : α → Script β} {final : β → FileTree → Prop}
    (h : script.Steady host post before after)
    (hf : ∀ value, (f value).Steady host post (after value) final) :
    (script >>= f).Steady host post before final := by
  refine fun alone w hbefore halike => meets_bind ((h alone w hbefore halike).mono ?_)
  rintro result w' ⟨hresult, halike', hafter⟩
  cases result with
  | ok value =>
    have hsame : (script >>= f).exec host post.lane alone =
        (f value).exec host post.lane (script.exec host post.lane alone).2 :=
      exec_bind_of_ok hresult.symm
    rw [thenEnds, hsame]
    exact hf value _ w' (hafter value rfl) halike'
  | error cause =>
    have hsame : (script >>= f).exec host post.lane alone =
        (.error cause, (script.exec host post.lane alone).2) := exec_bind_of_error hresult.symm
    rw [thenEnds, hsame]
    exact ⟨rfl, halike', by rintro _ ⟨⟩⟩

theorem Steady.mono {script : Script α} {before' : FileTree → Prop}
    {after' : α → FileTree → Prop} (h : script.Steady host post before after)
    (hbefore : ∀ tree, before' tree → before tree)
    (hafter : ∀ value tree, after value tree → after' value tree) :
    script.Steady host post before' after' :=
  fun alone w hw halike => (h alone w (hbefore _ hw) halike).mono fun _ _ hends =>
    ⟨hends.same, hends.alike, fun value hvalue => hafter _ _ (hends.after value hvalue)⟩

theorem steady_files {request : Request (Except FileFault α)}
    (h : request.Steady host post before fun answer tree =>
      ∀ value, answer = .ok value → after value tree) :
    (files request).Steady host post before after := by
  refine steady_ask h fun answer => ?_
  cases answer with
  | ok value => exact steady_done fun tree hafter => hafter value rfl
  | error cause => exact steady_halt

theorem steady_run {argv : List String} {cwd : Path} {after : CommandResult → FileTree → Prop}
    (h : (Request.run ⟨argv, cwd⟩).Steady host post before fun reply tree =>
      ∀ result, reply = .ok result → after result tree) :
    (run argv cwd).Steady host post before after := by
  refine steady_ask h fun reply => ?_
  cases reply with
  | ok result => exact steady_done fun tree hafter => hafter result rfl
  | error cause => exact steady_halt

theorem steady_of_and {script : Script α} {p : Prop}
    (h : p → script.Steady host post before after) :
    script.Steady host post (fun tree => p ∧ before tree) after :=
  fun alone w hw => h hw.1 alone w hw.2

theorem Only.steady {script : Script α} {holds : FileTree → Prop}
    (h : script.Only (Request.Calm host post holds)) :
    script.Steady host post holds fun _ => holds := by
  induction script with
  | done value => exact steady_done fun _ => id
  | halt cause => exact steady_halt
  | ask request next ih => exact steady_ask h.1 fun answer => ih answer (h.2 answer)

end Script

/-! ## Two scripts in some order -/

/-- How two scripts have ended, and the world after both. -/
structure JointEnding (α : Type) where
  left : Except Halt α
  right : Except Halt α
  world : World

namespace JointEnding

variable {α : Type}

/-- Performs the left script and then the right one. -/
def leftFirst (host : Host) (leftLane rightLane : Lane) (p q : Script α) (w : World) : JointEnding α :=
  let (a, w) := p.exec host leftLane w
  let (b, w) := q.exec host rightLane w
  ⟨a, b, w⟩

/-- Performs the right script and then the left one. -/
def rightFirst (host : Host) (leftLane rightLane : Lane) (p q : Script α) (w : World) : JointEnding α :=
  let (b, w) := q.exec host rightLane w
  let (a, w) := p.exec host leftLane w
  ⟨a, b, w⟩

end JointEnding

/-- Two strands have ended as scripts end in some order: each that was not withdrawn has the same
result and asked for the same, and if neither was, the files are the same everywhere. -/
structure Strands.EndLike {α : Type} (strands : Strands α) (leftLane rightLane : Lane) (w : World)
    (ending : JointEnding α) : Prop where
  left : strands.left ≠ .withdrawn → strands.left.result = ending.left ∧
    commandsOf (laneRecord leftLane w.events) =
      commandsOf (laneRecord leftLane ending.world.events)
  right : strands.right ≠ .withdrawn → strands.right.result = ending.right ∧
    commandsOf (laneRecord rightLane w.events) =
      commandsOf (laneRecord rightLane ending.world.events)
  files : strands.left ≠ .withdrawn → strands.right ≠ .withdrawn →
    ∀ place, w.files.get? place = ending.world.files.get? place

section Pair

variable {host : Host} {post : Post} {α : Type} {p q : Script α} {w w' : World}
  {ended ended' : Except Halt α × World} {after after' : α → FileTree → Prop} {a a' b b' : Except Halt α}

theorem Post.EndsAs.commands (h : post.EndsAs ended after a w)
    (h' : post.EndsAs ended after a' w') :
    commandsOf (laneRecord post.lane w.events) = commandsOf (laneRecord post.lane w'.events) :=
  h.alike.commands.trans h'.alike.commands.symm

theorem Post.EndsAs.files (hp : post.EndsAs ended after a w)
    (hq : post.beside.EndsAs ended' after' b w)
    (hp' : post.EndsAs ended after a' w')
    (hq' : post.beside.EndsAs ended' after' b' w') (place : Place) :
    w.files.get? place = w'.files.get? place := by
  by_cases hothers : post.others place
  · have hown : ¬post.own place := fun hown => post.apart place hown hothers
    rw [hq.alike.files place hown, hq'.alike.files place hown]
  · rw [hp.alike.files place hothers, hp'.alike.files place hothers]

theorem Strands.Meet.endLike {strands : Strands α} {leftBegun rightBegun : Bool}
    {ending : JointEnding α}
    (h : strands.Meet leftBegun rightBegun (post.EndsAs ended after)
      (post.beside.EndsAs ended' after') w)
    (hp : post.EndsAs ended after ending.left ending.world)
    (hq : post.beside.EndsAs ended' after' ending.right ending.world) :
    strands.EndLike post.lane post.other w ending where
  left hnot := ⟨(h.1.ends hnot).same.trans hp.same.symm, (h.1.ends hnot).commands hp⟩
  right hnot := ⟨(h.2.ends hnot).same.trans hq.same.symm, (h.2.ends hnot).commands hq⟩
  files hleft hright := (h.1.ends hleft).files (h.2.ends hright) hp hq

variable {before before' : FileTree → Prop}

theorem JointEnding.leftFirst_endsAs (hp : p.Steady host post before after)
    (hq : q.Steady host post.beside before' after') (hw : before w.files) (hw' : before' w.files) :
    let ending := leftFirst host post.lane post.other p q w
    post.EndsAs (p.exec host post.lane w) after ending.left ending.world ∧
      post.beside.EndsAs (q.exec host post.other w) after' ending.right ending.world := by
  obtain ⟨hconduct, hends⟩ := (hp w w hw (.refl w)).exec
  obtain ⟨hconduct', hends'⟩ := ((hq w w hw' (.refl w)).later hconduct).exec
  exact ⟨hends _ hconduct', hends' _ (Conduct.refl _ _)⟩

theorem JointEnding.rightFirst_endsAs (hp : p.Steady host post before after)
    (hq : q.Steady host post.beside before' after') (hw : before w.files) (hw' : before' w.files) :
    let ending := rightFirst host post.lane post.other p q w
    post.EndsAs (p.exec host post.lane w) after ending.left ending.world ∧
      post.beside.EndsAs (q.exec host post.other w) after' ending.right ending.world :=
  And.symm (leftFirst_endsAs hq hp hw' hw)

theorem Strands.run_endLike (hp : p.Steady host post before after)
    (hq : q.Steady host post.beside before' after') (hw : before w.files) (hw' : before' w.files)
    (patience : Patience) (turns : List Side) (leftBegun rightBegun : Bool) :
    let ended := run host post.lane post.other patience turns leftBegun rightBegun p q w
    ended.1.EndLike post.lane post.other ended.2
        (.leftFirst host post.lane post.other p q w) ∧
      ended.1.EndLike post.lane post.other ended.2
        (.rightFirst host post.lane post.other p q w) := by
  have hmeet := run_meets patience turns leftBegun rightBegun (hp w w hw (.refl w))
    (hq w w hw' (.refl w))
  obtain ⟨hleft, hright⟩ := JointEnding.leftFirst_endsAs hp hq hw hw'
  obtain ⟨hleft', hright'⟩ := JointEnding.rightFirst_endsAs hp hq hw hw'
  exact ⟨hmeet.endLike hleft hright, hmeet.endLike hleft' hright'⟩

end Pair

end NextRelease
