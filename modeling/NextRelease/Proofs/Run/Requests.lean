import NextRelease.Proofs.Run.Strands

/-! The kinds of requests that a script can make, on whatever course it takes. What every request of
a kind preserves is preserved by every script that makes no other ones, alone or beside another. -/

namespace NextRelease

def Script.Only (kind : ∀ {β : Type}, Request β → Prop) {α : Type} : Script α → Prop
  | .done _ | .halt _ => True
  | .ask request next => kind request ∧ ∀ answer, (next answer).Only kind

def Request.Keeps (host : Host) (holds : World → Prop) {β : Type} (request : Request β) : Prop :=
  ∀ lane w, holds w → holds (request.perform host lane w).2

def Request.Looks (commands : Command → Prop) {β : Type} : Request β → Prop
  | .run command => commands command
  | .note .. | .status _ | .resolve .. | .read _ => True
  | .write .. | .makeDirectory _ | .move .. | .removeTree _ => False

/-- Each command of a record, which was made after a past, left as it was what held of the files. -/
def Host.Kept (host : Host) (holds : FileTree → Prop) (past record : List Event) : Prop :=
  ∀ front lane command before reply rest,
    record = front ++ .command lane command before reply :: rest → holds before →
      holds (host.runner.respond (past ++ front) before command).2

def Request.Leaves (host : Host) (holds : FileTree → Prop) {β : Type} : Request β → Prop
  | .run _ => True
  | request => ∀ lane w, holds w.files → holds (request.perform host lane w).2.files

theorem Request.Looks.mono {commands commands' : Command → Prop} {β : Type} {request : Request β}
    (h : request.Looks commands) (himp : ∀ command, commands command → commands' command) :
    request.Looks commands' := by
  cases request with
  | run command => exact himp command h
  | _ => exact h

theorem Request.Looks.files_perform {β : Type} {request : Request β}
    (h : request.Looks fun _ => False) (host : Host) (lane : Lane) (w : World) :
    (request.perform host lane w).2.files = w.files := by
  cases request with
  | run command => exact h.elim
  | note level text => rfl
  | status path => exact w.files_look ..
  | resolve path depth => exact w.files_look ..
  | read path => exact World.files_look ..
  | write path content => exact h.elim
  | makeDirectory path => exact h.elim
  | move source destination => exact h.elim
  | removeTree path => exact h.elim

theorem Request.Looks.leaves {host : Host} {holds : FileTree → Prop} {commands : Command → Prop}
    {β : Type} {request : Request β} (h : request.Looks commands) :
    request.Leaves host holds := by
  have hleaves (h : request.Looks fun _ => False) (lane : Lane) (w : World) (hw : holds w.files) :
      holds (request.perform host lane w).2.files := by rwa [h.files_perform]
  cases request with
  | run command => trivial
  | _ => exact hleaves h

namespace Host.Kept

variable {host : Host} {holds : FileTree → Prop} {past front record rest : List Event}

theorem of_append_left (h : host.Kept holds past (record ++ rest)) : host.Kept holds past record := by
  intro before' lane command before reply rest' hrecord
  exact h before' lane command before reply (rest' ++ rest) (by rw [hrecord]; simp)

theorem of_append_right (h : host.Kept holds past (front ++ record)) :
    host.Kept holds (past ++ front) record := by
  intro before' lane command before reply rest' hrecord
  rw [List.append_assoc]
  exact h (front ++ before') lane command before reply rest' (by rw [hrecord]; simp)

theorem and {holds' : FileTree → Prop} (h : host.Kept holds past record)
    (h' : host.Kept holds' past record) :
    host.Kept (fun tree => holds tree ∧ holds' tree) past record :=
  fun _ _ _ _ _ _ hrecord hbefore =>
    ⟨h _ _ _ _ _ _ hrecord hbefore.1, h' _ _ _ _ _ _ hrecord hbefore.2⟩

theorem imp {p : Prop} (h : p → host.Kept holds past record) :
    host.Kept (fun tree => p → holds tree) past record :=
  fun _ _ _ _ _ _ hrecord hbefore hp => h hp _ _ _ _ _ _ hrecord (hbefore hp)

end Host.Kept

def World.Since (host : Host) (start : World) (holds : FileTree → Prop) (w : World) : Prop :=
  ∃ record, w.events = start.events ++ record ∧ (host.Kept holds start.events record →
    holds w.files ∧
      ∀ lane command before reply, .command lane command before reply ∈ record → holds before)

theorem World.Since.refl (host : Host) {holds : FileTree → Prop} {w : World} (h : holds w.files) :
    w.Since host holds w := ⟨[], (List.append_nil _).symm, fun _ => ⟨h, by simp⟩⟩

theorem World.Since.of_kept {host : Host} {holds : FileTree → Prop} {start w : World}
    {record : List Event} (h : start.Since host holds w) (hrecord : w.events = start.events ++ record)
    (hkept : host.Kept holds start.events record) :
    holds w.files ∧
      ∀ lane command before reply, .command lane command before reply ∈ record → holds before := by
  obtain ⟨record', hrecord', hholds⟩ := h
  obtain rfl : record' = record := List.append_cancel_left (hrecord'.symm.trans hrecord)
  exact hholds hkept

theorem Request.Leaves.keeps_since {host : Host} {holds : FileTree → Prop} (start : World)
    {β : Type} {request : Request β} (h : request.Leaves host holds) :
    request.Keeps host (start.Since host holds) := by
  rintro lane w ⟨record, hevents, hholds⟩
  refine ⟨record ++ request.record host lane w, ?_, fun hkept => ?_⟩
  · rw [request.events_perform, hevents, List.append_assoc]
  obtain ⟨hfiles, hbefore⟩ := hholds hkept.of_append_left
  cases request with
  | run command =>
    refine ⟨?_, fun lane' asked before reply hmem => ?_⟩
    · have hleft := hkept record lane command w.files _ [] rfl hfiles
      rwa [← hevents] at hleft
    · obtain hmem | hmem := List.mem_append.1 hmem
      · exact hbefore _ _ _ _ hmem
      · cases List.mem_singleton.1 hmem
        exact hfiles
  | _ =>
    refine ⟨h lane w hfiles, fun lane' asked before reply hmem => ?_⟩
    obtain hmem | hmem := List.mem_append.1 hmem
    · exact hbefore _ _ _ _ hmem
    · obtain hmem | ⟨_, _, hmem⟩ := Request.mem_record hmem
      · simp [Request.trace] at hmem
      · cases hmem

namespace Script

variable {kind : ∀ {β : Type}, Request β → Prop} {α β : Type}

@[simp] theorem only_done (value : α) : (done value).Only kind := trivial

@[simp] theorem only_halt (cause : Halt) : (halt cause : Script α).Only kind := trivial

@[simp] theorem only_fail (cause : Failure) : (fail cause : Script α).Only kind := trivial

@[simp] theorem only_fault (cause : Fault) : (fault cause : Script α).Only kind := trivial

@[simp] theorem only_ofExcept (outcome : Except Halt α) : (ofExcept outcome).Only kind := by
  cases outcome <;> trivial

theorem only_bind {script : Script α} {f : α → Script β} (h : script.Only kind)
    (hf : ∀ value, (f value).Only kind) : (script >>= f).Only kind := by
  induction script with
  | done value => exact hf value
  | halt cause => trivial
  | ask request next ih => exact ⟨h.1, fun answer => ih answer (h.2 answer)⟩

theorem only_run {argv : List String} {cwd : Path} (h : kind (.run ⟨argv, cwd⟩)) :
    (run argv cwd).Only kind := ⟨h, fun _ => only_ofExcept _⟩

theorem only_note {level : Level} {text : String} (h : kind (.note level text)) :
    (note level text).Only kind := ⟨h, fun _ => trivial⟩

theorem only_files {request : Request (Except FileFault α)} (h : kind request) :
    (files request).Only kind :=
  ⟨h, fun answer => by cases answer <;> trivial⟩

theorem only_isFile {path : Path} (h : kind (.status path)) : (isFile path).Only kind := by
  refine ⟨h, fun answer => ?_⟩
  cases answer with
  | ok found => trivial
  | error cause =>
    simp only
    split <;> trivial

theorem only_readText {path : Path} (h : kind (.read path)) : (readText path).Only kind := by
  refine only_bind (only_files h) fun bytes => ?_
  split <;> trivial

theorem Only.mono {kind' : ∀ {β : Type}, Request β → Prop} {script : Script α}
    (h : script.Only kind) (himp : ∀ {β : Type} (request : Request β), kind request → kind' request) :
    script.Only kind' := by
  induction script with
  | done value => trivial
  | halt cause => trivial
  | ask request next ih => exact ⟨himp request h.1, fun answer => ih answer (h.2 answer)⟩

variable {host : Host} {holds : World → Prop}

theorem Only.meets {script : Script α} (h : script.Only kind)
    (hkeeps : ∀ {β : Type} (request : Request β), kind request → request.Keeps host holds)
    (lane : Lane) {w : World} (hw : holds w) :
    script.Meets host lane (.keeping holds) (.keeping holds) (fun _ => holds) w := by
  induction script generalizing w with
  | done value => exact fun w' hw' => hw' hw
  | halt cause => exact fun w' hw' => hw' hw
  | ask request next ih =>
    exact fun w' hw' => ⟨hkeeps request h.1 lane w', ih _ (h.2 _) (hkeeps request h.1 lane w' (hw' hw))⟩

theorem Only.exec {script : Script α} (h : script.Only kind)
    (hkeeps : ∀ {β : Type} (request : Request β), kind request → request.Keeps host holds)
    (lane : Lane) {w : World} (hw : holds w) : holds (script.exec host lane w).2 :=
  (h.meets hkeeps lane hw).exec.1 hw

theorem Only.files_exec {script : Script α} (h : script.Only (Request.Looks fun _ => False))
    (host : Host) (lane : Lane) (w : World) : (script.exec host lane w).2.files = w.files := by
  have hkeeps {γ : Type} (request : Request γ) (hlooks : request.Looks fun _ => False) :
      request.Keeps host fun v => v.files = w.files :=
    fun lane' v hv => (hlooks.files_perform host lane' v).trans hv
  exact h.exec hkeeps lane rfl

end Script

theorem Run.both_keeps {left right : ∀ {β : Type}, Request β → Prop} {host : Host}
    {holds : World → Prop} {α : Type} {p q : Script α} (hp : p.Only left) (hq : q.Only right)
    (hleft : ∀ {β : Type} (request : Request β), left request → request.Keeps host holds)
    (hright : ∀ {β : Type} (request : Request β), right request → request.Keeps host holds)
    (leftLane rightLane : Lane) {w : World} (hw : holds w) :
    holds (both leftLane rightLane p q host w).2 := by
  obtain ⟨strands, _, hl, hr⟩ :=
    both_meets (hp.meets hleft leftLane hw) (hq.meets hright rightLane hw)
  cases hstanding : strands.left with
  | ended result =>
    rw [hstanding] at hl
    exact hl
  | going result =>
    rw [hstanding] at hl
    exact hl
  | withdrawn =>
    rw [hstanding] at hl
    obtain ⟨_, cause, hother⟩ := hl
    rw [hother] at hr
    exact hr

/-! ## The commands of a record -/

def Event.Asks (commands : Command → Prop) : Event → Prop
  | command _ asked _ _ => commands asked
  | note .. | read .. | move .. | failed .. => True
  | scratch _ => False

def Request.Asks (commands : Command → Prop) {β : Type} : Request β → Prop
  | .run command => commands command
  | _ => True

theorem Event.Asks.mono {commands commands' : Command → Prop} {event : Event}
    (h : event.Asks commands) (himp : ∀ command, commands command → commands' command) :
    event.Asks commands' := by
  cases event with
  | command lane asked before reply => exact himp asked h
  | _ => exact h

theorem Request.Asks.of_mem_record {host : Host} {lane : Lane} {commands : Command → Prop}
    {β : Type} {request : Request β} (h : request.Asks commands) {w : World} {event : Event}
    (hevent : event ∈ request.record host lane w) : event.Asks commands := by
  obtain hevent | ⟨_, _, rfl⟩ := mem_record hevent
  · cases request <;> simp_all [trace, Event.Asks, Asks]
  · trivial

theorem Request.asks_any {β : Type} (request : Request β) : request.Asks fun _ => True := by
  cases request <;> trivial

theorem Script.asks_any {α : Type} (script : Script α) :
    script.Only (Request.Asks fun _ => True) := by
  induction script with
  | done value => trivial
  | halt cause => trivial
  | ask request next ih => exact ⟨request.asks_any, ih⟩

theorem Request.Looks.asks {commands : Command → Prop} {β : Type} {request : Request β}
    (h : request.Looks commands) : request.Asks commands := by
  cases request with
  | run command => exact h
  | _ => trivial

theorem Script.Course.asks {host : Host} {lane : Lane} {commands : Command → Prop} {α : Type}
    {script : Script α} {record : List Event} {result : Except Halt α}
    (h : script.Course host lane record result) (honly : script.Only (Request.Asks commands)) :
    ∀ event ∈ record, event.Asks commands := by
  induction script generalizing record with
  | done value => simp [h.1]
  | halt cause => simp [h.1]
  | ask request next ih =>
    obtain ⟨w, rest, rfl, hrest⟩ := h
    intro event hevent
    obtain hevent | hevent := List.mem_append.1 hevent
    · exact honly.1.of_mem_record hevent
    · exact ih _ hrest (honly.2 _) event hevent

theorem commandsOf_eq_nil {record : List Event} (h : ∀ event ∈ record, event.Asks fun _ => False) :
    commandsOf record = [] := by
  refine List.filterMap_eq_nil_iff.2 fun event hevent => ?_
  cases event with
  | command lane asked before reply => exact (h _ hevent).elim
  | _ => rfl

theorem Script.Only.commandsOf_exec {α : Type} {script : Script α}
    (h : script.Only (Request.Asks fun _ => False)) (host : Host) (lane : Lane) (w : World) :
    ∃ record, (script.exec host lane w).2.events = w.events ++ record ∧ commandsOf record = [] := by
  obtain ⟨record, hevents, hcourse⟩ := exec_course host lane script w
  exact ⟨record, hevents, commandsOf_eq_nil (hcourse.asks h)⟩

def World.Asked (start : World) (commands : Command → Prop) (w : World) : Prop :=
  ∃ record, w.events = start.events ++ record ∧ ∀ event ∈ record, event.Asks commands

theorem Request.Asks.keeps_asked {host : Host} {commands commands' : Command → Prop} {β : Type}
    {request : Request β} (h : request.Asks commands)
    (himp : ∀ command, commands command → commands' command) (start : World) :
    request.Keeps host (start.Asked commands') := by
  rintro lane w ⟨record, hevents, hasks⟩
  refine ⟨record ++ request.record host lane w, ?_, fun event hevent => ?_⟩
  · rw [request.events_perform, hevents, List.append_assoc]
  · obtain hevent | hevent := List.mem_append.1 hevent
    · exact hasks event hevent
    · exact (h.of_mem_record hevent).mono himp

theorem asks_removeTree (path : Path) (retries attempt : Nat) :
    (removeTree path retries attempt).Only (Request.Asks fun _ => False) := by
  induction retries generalizing attempt with
  | zero => exact Script.only_bind (Script.only_note trivial) fun _ => trivial
  | succ retries ih =>
    refine ⟨trivial, fun removal => ?_⟩
    cases removal with
    | gone => trivial
    | failed cause => trivial
    | refused reason => exact Script.only_bind (Script.only_note trivial) fun _ => ih (attempt + 1)

end NextRelease
