import NextRelease.Run.Basic

/-! Courses of scripts: what a script leaves in the record and how it ends, whatever its
surroundings do between two of its requests. A script that is performed alone and a strand that
goes on beside another one both follow a course. -/

namespace NextRelease

section

-- The equations of these definitions are derived here, once for all proofs that use them.
attribute [local simp] Request.perform Script.exec Script.files Script.isFile

end

def Event.lane? : Event → Option Lane
  | command lane _ _ _ => some lane
  | note lane _ _ => some lane
  | read lane _ _ => some lane
  | move lane _ _ => some lane
  | failed lane _ _ _ => some lane
  | scratch _ => none

def Event.isIn (lane : Lane) (event : Event) : Bool := event.lane? == some lane

/-- The commands of a record in order, with their replies. -/
def commandsOf (record : List Event) : List (Command × Reply) :=
  record.filterMap fun
    | .command _ asked _ reply => some (asked, reply)
    | .note .. | .read .. | .move .. | .failed .. | .scratch _ => none

/-- The readings of a record in order, with the trees in which they took place. -/
def readsOf (record : List Event) : List (Path × FileTree) :=
  record.filterMap fun
    | .read _ path files => some (path, files)
    | .command .. | .note .. | .move .. | .failed .. | .scratch _ => none

section Views

variable (lane : Lane) (record rest : List Event)

@[simp] theorem commandsOf_nil : commandsOf [] = [] := rfl

@[simp] theorem commandsOf_append :
    commandsOf (record ++ rest) = commandsOf record ++ commandsOf rest :=
  List.filterMap_append

@[simp] theorem commandsOf_cons_command (asked : Command) (before : FileTree) (reply : Reply) :
    commandsOf (.command lane asked before reply :: rest) = (asked, reply) :: commandsOf rest := rfl

@[simp] theorem commandsOf_cons_note (level : Level) (text : String) :
    commandsOf (.note lane level text :: rest) = commandsOf rest := rfl

@[simp] theorem commandsOf_cons_read (path : Path) (files : FileTree) :
    commandsOf (.read lane path files :: rest) = commandsOf rest := rfl

@[simp] theorem readsOf_nil : readsOf [] = [] := rfl

@[simp] theorem readsOf_append : readsOf (record ++ rest) = readsOf record ++ readsOf rest :=
  List.filterMap_append

@[simp] theorem readsOf_cons_command (asked : Command) (before : FileTree) (reply : Reply) :
    readsOf (.command lane asked before reply :: rest) = readsOf rest := rfl

@[simp] theorem readsOf_cons_note (level : Level) (text : String) :
    readsOf (.note lane level text :: rest) = readsOf rest := rfl

@[simp] theorem readsOf_cons_read (path : Path) (files : FileTree) :
    readsOf (.read lane path files :: rest) = (path, files) :: readsOf rest := rfl

end Views

def FileOperation.failures (operation : FileOperation) (lane : Lane) (files : FileTree) {α : Type} :
    Except FileFault α → List Event
  | .ok _ => []
  | .error fault =>
    if operation.isMiss fault then [] else [.failed lane operation files fault]

@[simp] theorem FileOperation.failures_ok (operation : FileOperation) (lane : Lane)
    (files : FileTree) {α : Type} (value : α) :
    operation.failures lane files (.ok value : Except FileFault α) = [] := rfl

theorem FileOperation.mem_failures {operation : FileOperation} {lane : Lane} {files : FileTree}
    {α : Type} {result : Except FileFault α} {event : Event} :
    event ∈ operation.failures lane files result ↔ ∃ fault, result = .error fault ∧
      operation.isMiss fault = false ∧ event = .failed lane operation files fault := by
  cases result with
  | ok value => simp
  | error fault =>
    unfold failures
    split <;> simp_all

def Request.trace (host : Host) (lane : Lane) {α : Type} : Request α → World → List Event
  | .run command, w =>
    [.command lane command w.files (host.runner.respond w.events w.files command).1]
  | .note level text, _ => [.note lane level text]
  | .read path, w => [.read lane path w.files]
  | .move source destination, _ => [.move lane source destination]
  | .status _, _ | .resolve _ _, _ | .write _ _, _ | .makeDirectory _, _ | .removeTree _, _ => []

def Request.failures (host : Host) (lane : Lane) {α : Type} : Request α → World → List Event
  | .status path, w =>
    FileOperation.failures (.status path) lane w.files (w.files.status (path.route host.cwd))
  | .resolve path depth, w =>
    FileOperation.failures (.resolve path depth) lane w.files (w.files.resolve host.cwd path depth)
  | .read path, w =>
    FileOperation.failures (.read path) lane w.files (w.files.read (path.route host.cwd))
  | .write path content, w =>
    FileOperation.failures (.write path content) lane w.files
      (w.files.write (path.route host.cwd) content)
  | .makeDirectory path, w =>
    FileOperation.failures (.makeDirectory path) lane w.files
      (w.files.makeDirectory (path.route host.cwd))
  | .move source destination, w =>
    FileOperation.failures (.move source destination) lane w.files
      (w.files.moveFile source (destination.route host.cwd))
  | .run _, _ | .note _ _, _ | .removeTree _, _ => []

def Request.record (host : Host) (lane : Lane) {α : Type} (request : Request α) (w : World) :
    List Event := request.trace host lane w ++ request.failures host lane w

namespace World

variable (w : World) (lane : Lane) (operation : FileOperation) {α : Type}
  (result : Except FileFault α)

@[simp] theorem look_ok (value : α) : w.look lane operation (.ok value) = (.ok value, w) := rfl

@[simp] theorem fst_look : (w.look lane operation result).1 = result := by
  cases result <;> rfl

@[simp] theorem files_look : (w.look lane operation result).2.files = w.files := by
  cases result with
  | ok value => rfl
  | error fault =>
    unfold look
    dsimp only
    split <;> rfl

theorem events_look :
    (w.look lane operation result).2.events =
      w.events ++ operation.failures lane w.files result := by
  cases result with
  | ok value => simp
  | error fault =>
    unfold look FileOperation.failures
    dsimp only
    split <;> simp [record]

@[simp] theorem update_ok (tree : FileTree) :
    w.update lane operation (.ok tree) = (.ok (), { w with files := tree }) := rfl

@[simp] theorem update_error (fault : FileFault) :
    w.update lane operation (.error fault) = w.look lane operation (.error fault) := rfl

theorem eq_error_of_update {w : World} {lane : Lane} {operation : FileOperation}
    {result : Except FileFault FileTree} {fault : FileFault}
    (h : (w.update lane operation result).1 = .error fault) : result = .error fault := by
  cases result with
  | ok tree => cases h
  | error cause =>
    cases h
    rfl

theorem events_update (result : Except FileFault FileTree) :
    (w.update lane operation result).2.events =
      w.events ++ operation.failures lane w.files result := by
  cases result with
  | ok tree => simp
  | error fault => exact w.events_look lane operation (.error fault : Except FileFault Unit)

end World

theorem Request.events_perform (host : Host) (lane : Lane) {α : Type} (request : Request α)
    (w : World) :
    (request.perform host lane w).2.events = w.events ++ request.record host lane w := by
  cases request <;>
    simp [perform, record, trace, failures, World.events_look, World.events_update, World.record]

theorem Request.mem_record {host : Host} {lane : Lane} {α : Type} {request : Request α} {w : World}
    {event : Event} (h : event ∈ request.record host lane w) :
    event ∈ request.trace host lane w ∨
      ∃ operation fault, event = .failed lane operation w.files fault := by
  refine (List.mem_append.1 h).imp id fun h => ?_
  have hfailed {operation : FileOperation} {β : Type} {result : Except FileFault β}
      (h : event ∈ operation.failures lane w.files result) :
      ∃ operation fault, event = .failed lane operation w.files fault := by
    obtain ⟨fault, _, _, rfl⟩ := FileOperation.mem_failures.1 h
    exact ⟨operation, fault, rfl⟩
  cases request <;> first | exact hfailed h | cases h

theorem Request.isIn_of_mem_record {host : Host} {lane : Lane} {α : Type} {request : Request α}
    {w : World} {event : Event} (h : event ∈ request.record host lane w) : event.isIn lane := by
  obtain h | ⟨_, _, rfl⟩ := mem_record h
  · cases request <;> simp_all [trace, Event.isIn, Event.lane?]
  · simp [Event.isIn, Event.lane?]

theorem FileOperation.commandsOf_failures (operation : FileOperation) (lane : Lane)
    (files : FileTree) {α : Type} (result : Except FileFault α) :
    commandsOf (operation.failures lane files result) = [] := by
  refine List.filterMap_eq_nil_iff.2 fun event hevent => ?_
  obtain ⟨fault, _, _, rfl⟩ := mem_failures.1 hevent
  rfl

theorem Request.commandsOf_failures (host : Host) (lane : Lane) {α : Type} (request : Request α)
    (w : World) : commandsOf (request.failures host lane w) = [] := by
  cases request <;> first | exact FileOperation.commandsOf_failures .. | rfl

section Answers

variable (host : Host) (lane : Lane) (w : World)

@[simp] theorem Request.fst_perform_status (path : Path) :
    ((status path).perform host lane w).1 = w.files.status (path.route host.cwd) := w.fst_look ..

@[simp] theorem Request.fst_perform_resolve (path : Path) (depth : Nat) :
    ((resolve path depth).perform host lane w).1 = w.files.resolve host.cwd path depth :=
  w.fst_look ..

@[simp] theorem Request.fst_perform_read (path : Path) :
    ((read path).perform host lane w).1 = w.files.read (path.route host.cwd) := World.fst_look ..

end Answers

def Script.Course (host : Host) (lane : Lane) {α : Type} :
    Script α → List Event → Except Halt α → Prop
  | .done value, record, result => record = [] ∧ result = .ok value
  | .halt cause, record, result => record = [] ∧ result = .error cause
  | .ask request next, record, result => ∃ w rest,
      record = request.record host lane w ++ rest ∧
        (next (request.perform host lane w).1).Course host lane rest result

namespace Script

variable {host : Host} {lane : Lane} {α β : Type} {record : List Event}

theorem course_bind {script : Script α} {f : α → Script β} {result : Except Halt β} :
    (script >>= f).Course host lane record result ↔
      (∃ front value rest, record = front ++ rest ∧
        script.Course host lane front (.ok value) ∧ (f value).Course host lane rest result) ∨
      ∃ cause, script.Course host lane record (.error cause) ∧ result = .error cause := by
  induction script generalizing record with
  | done value =>
    constructor
    · exact fun h => .inl ⟨[], value, record, rfl, ⟨rfl, rfl⟩, h⟩
    · rintro (⟨_, _, rest, rfl, ⟨rfl, h⟩, hrest⟩ | ⟨cause, ⟨_, h⟩, _⟩)
      · cases h
        exact hrest
      · cases h
  | halt cause =>
    constructor
    · rintro ⟨rfl, rfl⟩
      exact .inr ⟨cause, ⟨rfl, rfl⟩, rfl⟩
    · rintro (⟨_, _, _, _, ⟨_, h⟩, _⟩ | ⟨_, ⟨rfl, h⟩, rfl⟩)
      · cases h
      · cases h
        exact ⟨rfl, rfl⟩
  | ask request next ih =>
    simp only [ask_bind, Course, ih]
    constructor
    · rintro ⟨w, rest, rfl, ⟨front, value, tail, rfl, hfront, htail⟩ | ⟨cause, h, rfl⟩⟩
      · exact .inl ⟨_, value, tail, (List.append_assoc ..).symm, ⟨w, front, rfl, hfront⟩, htail⟩
      · exact .inr ⟨cause, ⟨w, rest, rfl, h⟩, rfl⟩
    · rintro (⟨_, value, tail, rfl, ⟨w, front, rfl, hfront⟩, htail⟩ | ⟨cause, ⟨w, rest, rfl, h⟩, rfl⟩)
      · exact ⟨w, front ++ tail, List.append_assoc .., .inl ⟨front, value, tail, rfl, hfront, htail⟩⟩
      · exact ⟨w, rest, rfl, .inr ⟨cause, h, rfl⟩⟩

theorem course_bind_ok {script : Script α} {f : α → Script β} {value : β} :
    (script >>= f).Course host lane record (.ok value) ↔
      ∃ front middle rest, record = front ++ rest ∧
        script.Course host lane front (.ok middle) ∧ (f middle).Course host lane rest (.ok value) := by
  simp [course_bind]

@[simp] theorem course_done {value : α} {result : Except Halt α} :
    (done value).Course host lane record result ↔ record = [] ∧ result = .ok value := Iff.rfl

@[simp] theorem course_halt {cause : Halt} {result : Except Halt α} :
    (halt cause : Script α).Course host lane record result ↔
      record = [] ∧ result = .error cause := Iff.rfl

@[simp] theorem course_fail {cause : Failure} {result : Except Halt α} :
    (fail cause : Script α).Course host lane record result ↔
      record = [] ∧ result = .error (.failure cause) := Iff.rfl

@[simp] theorem course_fault {cause : Fault} {result : Except Halt α} :
    (fault cause : Script α).Course host lane record result ↔
      record = [] ∧ result = .error (.fault cause) := Iff.rfl

@[simp] theorem course_ofExcept {outcome result : Except Halt α} :
    (ofExcept outcome).Course host lane record result ↔ record = [] ∧ result = outcome := by
  cases outcome <;> rfl

@[simp] theorem course_note {level : Level} {text : String} {result : Except Halt Unit} :
    (note level text).Course host lane record result ↔
      record = [.note lane level text] ∧ result = .ok () := by
  constructor
  · rintro ⟨w, rest, rfl, rfl, rfl⟩
    exact ⟨rfl, rfl⟩
  · rintro ⟨rfl, rfl⟩
    exact ⟨⟨.empty, []⟩, [], rfl, rfl, rfl⟩

@[simp] theorem course_info {text : String} {result : Except Halt Unit} :
    (info text).Course host lane record result ↔
      record = [.note lane .info text] ∧ result = .ok () := course_note

theorem course_note_bind {level : Level} {text : String} {f : Unit → Script β}
    {result : Except Halt β} :
    (note level text >>= f).Course host lane record result ↔
      ∃ rest, record = .note lane level text :: rest ∧ (f ()).Course host lane rest result := by
  constructor
  · rintro ⟨_, rest, rfl, hrest⟩
    exact ⟨rest, rfl, hrest⟩
  · rintro ⟨rest, rfl, hrest⟩
    exact ⟨⟨.empty, []⟩, rest, rfl, hrest⟩

theorem course_info_bind {text : String} {f : Unit → Script β} {result : Except Halt β} :
    (info text >>= f).Course host lane record result ↔
      ∃ rest, record = .note lane .info text :: rest ∧ (f ()).Course host lane rest result :=
  course_note_bind

theorem course_run {argv : List String} {cwd : Path} {result : Except Halt CommandResult} :
    (run argv cwd).Course host lane record result ↔ ∃ events before,
      (host.runner.respond events before ⟨argv, cwd⟩).1 = result ∧
        record = [.command lane ⟨argv, cwd⟩ before result] := by
  constructor
  · rintro ⟨w, rest, rfl, hrest⟩
    obtain ⟨rfl, rfl⟩ := course_ofExcept.1 hrest
    exact ⟨w.events, w.files, rfl, rfl⟩
  · rintro ⟨events, before, rfl, rfl⟩
    exact ⟨⟨before, events⟩, [], rfl, course_ofExcept.2 ⟨rfl, rfl⟩⟩

theorem course_run_bind {argv : List String} {cwd : Path} {f : CommandResult → Script β}
    {value : β} (h : (run argv cwd >>= f).Course host lane record (.ok value)) :
    ∃ result before rest,
      record = .command lane ⟨argv, cwd⟩ before (.ok result) :: rest ∧
        (f result).Course host lane rest (.ok value) := by
  obtain ⟨front, result, rest, rfl, hfront, hrest⟩ := course_bind_ok.1 h
  obtain ⟨_, before, _, rfl⟩ := course_run.1 hfront
  exact ⟨result, before, rest, rfl, hrest⟩

theorem course_files {request : Request (Except FileFault α)} {value : α}
    (h : (files request).Course host lane record (.ok value)) :
    ∃ w, record = request.record host lane w ∧ (request.perform host lane w).1 = .ok value := by
  obtain ⟨w, rest, rfl, hrest⟩ := h
  refine ⟨w, ?_⟩
  cases hanswer : (request.perform host lane w).1 with
  | ok found =>
    rw [hanswer] at hrest
    obtain ⟨rfl, hvalue⟩ := hrest
    rw [Except.ok.inj hvalue]
    exact ⟨List.append_nil _, rfl⟩
  | error cause =>
    rw [hanswer] at hrest
    exact nomatch hrest.2

theorem course_resolve {path : Path} {depth : Nat} {place : Place}
    (h : (resolve path depth).Course host lane record (.ok place)) : record = [] := by
  obtain ⟨w, rfl, hplace⟩ := course_files h
  rw [Request.fst_perform_resolve] at hplace
  simp [Request.record, Request.trace, Request.failures, hplace]

theorem course_makeDirectory {path : Path}
    (h : (files (.makeDirectory path)).Course host lane record (.ok ())) : record = [] := by
  obtain ⟨w, rfl, hmade⟩ := course_files h
  simp only [Request.perform] at hmade
  cases htree : w.files.makeDirectory (path.route host.cwd) with
  | ok tree => simp [Request.record, Request.trace, Request.failures, htree]
  | error fault => simp [htree] at hmade

theorem course_move {source : Place} {destination : Path}
    (h : (files (.move source destination)).Course host lane record (.ok ())) :
    record = [.move lane source destination] := by
  obtain ⟨w, rfl, hmoved⟩ := course_files h
  simp only [Request.perform] at hmoved
  cases htree : w.files.moveFile source (destination.route host.cwd) with
  | ok tree => simp [Request.record, Request.trace, Request.failures, htree]
  | error fault => simp [htree] at hmoved

theorem course_isFile {path : Path} {found : Bool}
    (h : (isFile path).Course host lane record (.ok found)) : record = [] := by
  obtain ⟨w, rest, rfl, hrest⟩ := h
  simp only [Request.fst_perform_status] at hrest
  cases hstatus : w.files.status (path.route host.cwd) with
  | ok kind =>
    rw [hstatus] at hrest
    simpa [Request.record, Request.trace, Request.failures, hstatus] using hrest.1
  | error cause =>
    simp only [hstatus] at hrest
    split at hrest
    · next habsent =>
      simpa [Request.record, Request.trace, Request.failures, hstatus, FileOperation.failures,
        FileOperation.isMiss, habsent] using hrest.1
    · exact nomatch hrest.2

theorem course_readText {path : Path} {text : String}
    (h : (readText path).Course host lane record (.ok text)) :
    ∃ tree bytes, record = [.read lane path tree] ∧
      tree.read (path.route host.cwd) = .ok bytes ∧ Text.decode? bytes = some text := by
  obtain ⟨front, bytes, rest, rfl, hfront, hrest⟩ := course_bind_ok.1 h
  obtain ⟨w, rfl, hbytes⟩ := course_files hfront
  rw [Request.fst_perform_read] at hbytes
  split at hrest
  · next text' htext =>
    obtain ⟨rfl, hvalue⟩ := hrest
    rw [Except.ok.inj hvalue]
    exact ⟨w.files, bytes, by simp [Request.record, Request.trace, Request.failures, hbytes], hbytes, htext⟩
  · exact nomatch hrest.2

@[simp] theorem exec_ofExcept (outcome : Except Halt α) (w : World) :
    (ofExcept outcome).exec host lane w = (outcome, w) := by
  cases outcome <;> rfl

theorem exec_run (argv : List String) (cwd : Path) (w : World) :
    (run argv cwd).exec host lane w = (Request.run ⟨argv, cwd⟩).perform host lane w :=
  exec_ofExcept _ _

theorem exec_files {request : Request (Except FileFault α)} {value : α} {w w' : World}
    (h : (files request).exec host lane w = (.ok value, w')) :
    request.perform host lane w = (.ok value, w') := by
  unfold files exec at h
  cases hanswer : request.perform host lane w with
  | mk answer v =>
    cases answer with
    | ok found =>
      simp only [hanswer] at h
      cases h
      rfl
    | error cause =>
      simp only [hanswer] at h
      cases h

theorem exec_bind_ok {script : Script α} {f : α → Script β} {w w' : World} {value : β} :
    (script >>= f).exec host lane w = (.ok value, w') ↔ ∃ middle v,
      script.exec host lane w = (.ok middle, v) ∧
        (f middle).exec host lane v = (.ok value, w') := by
  rw [exec_bind]
  cases script.exec host lane w with
  | mk result v =>
    cases result with
    | ok middle => exact ⟨fun h => ⟨middle, v, rfl, h⟩, by rintro ⟨_, _, ⟨⟩, h⟩; exact h⟩
    | error cause => exact ⟨fun h => (nomatch h), by rintro ⟨_, _, ⟨⟩, _⟩⟩

theorem exec_bind_error {script : Script α} {f : α → Script β} {w w' : World} {cause : Halt} :
    (script >>= f).exec host lane w = (.error cause, w') ↔
      script.exec host lane w = (.error cause, w') ∨ ∃ middle v,
        script.exec host lane w = (.ok middle, v) ∧
          (f middle).exec host lane v = (.error cause, w') := by
  rw [exec_bind]
  cases script.exec host lane w with
  | mk result v =>
    cases result with
    | ok middle =>
      exact ⟨fun h => .inr ⟨middle, v, rfl, h⟩, by rintro (⟨⟨⟩⟩ | ⟨_, _, ⟨⟩, h⟩); exact h⟩
    | error cause' =>
      exact ⟨fun h => by cases h; exact .inl rfl, by rintro (⟨⟨⟩⟩ | ⟨_, _, ⟨⟩, _⟩); rfl⟩

theorem exec_files_error {request : Request (Except FileFault α)} {cause : Halt} {w w' : World}
    (h : (files request).exec host lane w = (.error cause, w')) :
    ∃ fault, cause = .fault (.files fault) := by
  unfold files exec at h
  cases hanswer : request.perform host lane w with
  | mk answer v =>
    cases answer with
    | ok found =>
      simp only [hanswer] at h
      cases h
    | error fault =>
      simp only [hanswer] at h
      cases h
      exact ⟨fault, rfl⟩

theorem exec_isFile_eq (path : Path) (w : World) :
    (isFile path).exec host lane w =
      match w.files.status (path.route host.cwd) with
      | .ok kind => (.ok (kind == .file), w)
      | .error fault =>
        if fault.isAbsence then (.ok false, w)
        else (.error (.fault (.files fault)), w.record (.failed lane (.status path) w.files fault)) := by
  simp only [isFile, exec, Request.perform]
  cases w.files.status (path.route host.cwd) with
  | ok kind => rfl
  | error cause =>
    cases habsent : cause.isAbsence <;> simp [World.look, FileOperation.isMiss, habsent] <;> rfl

theorem exec_isFile {path : Path} {found : Bool} {w w' : World}
    (h : (isFile path).exec host lane w = (.ok found, w')) : w' = w := by
  rw [exec_isFile_eq] at h
  split at h
  · cases h
    rfl
  · split at h <;> cases h
    rfl

theorem status_of_isFile {path : Path} {cause : Halt} {w w' : World}
    (h : (isFile path).exec host lane w = (.error cause, w')) :
    ∃ fault, w.files.status (path.route host.cwd) = .error fault ∧ fault.isAbsence = false := by
  rw [exec_isFile_eq] at h
  split at h
  · cases h
  · next fault hstatus =>
    refine ⟨fault, hstatus, ?_⟩
    cases habsent : fault.isAbsence with
    | false => rfl
    | true =>
      rw [habsent] at h
      cases h

theorem hasKind_of_isFile {path : Path} {found : Bool} {w w' : World}
    (h : (isFile path).exec host lane w = (.ok found, w')) :
    found = w.files.hasKind .file (path.route host.cwd) := by
  rw [exec_isFile_eq] at h
  split at h
  · next hstatus =>
    cases h
    rw [FileTree.hasKind, hstatus]
  · next hstatus =>
    rw [FileTree.hasKind, hstatus]
    split at h <;> cases h
    rfl

theorem isFile_of_hasKind {path : Path} {w : World}
    (h : w.files.hasKind .file (path.route host.cwd)) :
    (isFile path).exec host lane w = (.ok true, w) := by
  unfold FileTree.hasKind at h
  rw [exec_isFile_eq]
  cases hstatus : w.files.status (path.route host.cwd) with
  | error cause => simp [hstatus] at h
  | ok kind =>
    rw [hstatus] at h
    simp only [h]

theorem exec_resolve (path : Path) (depth : Nat) (w : World) :
    (resolve path depth).exec host lane w =
      match w.files.resolve host.cwd path depth with
      | .ok place => (.ok place, w)
      | .error fault => (.error (.fault (.files fault)),
          w.record (.failed lane (.resolve path depth) w.files fault)) := by
  simp only [resolve, files, exec, Request.perform]
  cases w.files.resolve host.cwd path depth <;> rfl

theorem exec_resolve_ok {path : Path} {depth : Nat} {place : Place} {w w' : World} :
    (resolve path depth).exec host lane w = (.ok place, w') ↔
      w.files.resolve host.cwd path depth = .ok place ∧ w' = w := by
  rw [exec_resolve]
  cases w.files.resolve host.cwd path depth <;> simp [eq_comm]

theorem exec_move (source : Place) (destination : Path) (w : World) :
    (files (.move source destination)).exec host lane w =
      match w.files.moveFile source (destination.route host.cwd) with
      | .ok tree => (.ok (), ⟨tree, w.events ++ [.move lane source destination]⟩)
      | .error fault => (.error (.fault (.files fault)),
          (w.record (.move lane source destination)).record
            (.failed lane (.move source destination) w.files fault)) := by
  simp only [files, exec, Request.perform, World.record]
  cases w.files.moveFile source (destination.route host.cwd) <;> rfl

theorem exec_makeDirectory (path : Path) (w : World) :
    (files (.makeDirectory path)).exec host lane w =
      match w.files.makeDirectory (path.route host.cwd) with
      | .ok tree => (.ok (), ⟨tree, w.events⟩)
      | .error fault => (.error (.fault (.files fault)),
          w.record (.failed lane (.makeDirectory path) w.files fault)) := by
  simp only [files, exec, Request.perform]
  cases w.files.makeDirectory (path.route host.cwd) <;> rfl

theorem exec_readText {path : Path} {text : String} {w w' : World}
    (h : (readText path).exec host lane w = (.ok text, w')) :
    ∃ bytes, w.files.read (path.route host.cwd) = .ok bytes ∧ Text.decode? bytes = some text ∧
      w'.files = w.files := by
  obtain ⟨bytes, v, hbytes, htext⟩ := exec_bind_ok.1 h
  have hperform := exec_files hbytes
  have hread : w.files.read (path.route host.cwd) = .ok bytes := by
    simpa using congrArg Prod.fst hperform
  have hfiles : v.files = w.files := by
    simpa [Request.perform, World.record] using congrArg (·.2.files) hperform.symm
  split at htext
  · next hdecode =>
    cases htext
    exact ⟨bytes, hread, hdecode, hfiles⟩
  · cases htext

theorem exec_course (host : Host) (lane : Lane) (script : Script α) (w : World) :
    ∃ record, (script.exec host lane w).2.events = w.events ++ record ∧
      script.Course host lane record (script.exec host lane w).1 := by
  induction script generalizing w with
  | done value => exact ⟨[], (List.append_nil _).symm, rfl, rfl⟩
  | halt cause => exact ⟨[], (List.append_nil _).symm, rfl, rfl⟩
  | ask request next ih =>
    obtain ⟨rest, hevents, hcourse⟩ := ih _ (request.perform host lane w).2
    refine ⟨request.record host lane w ++ rest, ?_, w, rest, rfl, hcourse⟩
    rw [exec, hevents, Request.events_perform, List.append_assoc]

theorem Course.isIn {script : Script α} {result : Except Halt α}
    (h : script.Course host lane record result) : ∀ event ∈ record, event.isIn lane := by
  induction script generalizing record with
  | done value => simp [h.1]
  | halt cause => simp [h.1]
  | ask request next ih =>
    obtain ⟨w, rest, rfl, hrest⟩ := h
    intro event hevent
    obtain hevent | hevent := List.mem_append.1 hevent
    · exact Request.isIn_of_mem_record hevent
    · exact ih _ hrest event hevent

theorem Course.mem_of_mem_readsOf {script : Script α} {result : Except Halt α} {path : Path}
    {tree : FileTree} (h : script.Course host lane record result)
    (hread : (path, tree) ∈ readsOf record) : .read lane path tree ∈ record := by
  obtain ⟨event, hmem, hevent⟩ := List.mem_filterMap.1 hread
  cases event <;> cases hevent
  obtain rfl : _ = lane := by simpa [Event.isIn, Event.lane?] using h.isIn _ hmem
  exact hmem

end Script

/-! ## Answers -/

structure Exchange where
  {Answer : Type}
  request : Request Answer
  answer : Answer

def Exchange.IsOf (host : Host) (lane : Lane) (exchange : Exchange) : Prop :=
  ∃ w, exchange.answer = (exchange.request.perform host lane w).1

namespace Script

variable {α β : Type}

def Answered : Script α → List Exchange → Except Halt α → Prop
  | done value, exchanges, result => exchanges = [] ∧ result = .ok value
  | halt cause, exchanges, result => exchanges = [] ∧ result = .error cause
  | ask request next, exchanges, result => ∃ answer rest,
      exchanges = ⟨request, answer⟩ :: rest ∧ (next answer).Answered rest result

def ComesTo (fair : Exchange → Prop) (ends : Except Halt α → Prop) : Script α → Prop
  | done value => ends (.ok value)
  | halt cause => ends (.error cause)
  | ask request next => ∀ answer, fair ⟨request, answer⟩ → (next answer).ComesTo fair ends

theorem Course.answered {host : Host} {lane : Lane} {script : Script α} {record : List Event}
    {result : Except Halt α} (h : script.Course host lane record result) :
    ∃ exchanges, script.Answered exchanges result ∧
      ∀ exchange ∈ exchanges, exchange.IsOf host lane := by
  induction script generalizing record with
  | done value => exact ⟨[], ⟨rfl, h.2⟩, by simp⟩
  | halt cause => exact ⟨[], ⟨rfl, h.2⟩, by simp⟩
  | ask request next ih =>
    obtain ⟨w, rest, _, hrest⟩ := h
    obtain ⟨exchanges, hanswered, hof⟩ := ih _ hrest
    exact ⟨_, ⟨_, exchanges, rfl, hanswered⟩, List.forall_mem_cons.2 ⟨⟨w, rfl⟩, hof⟩⟩

section

variable {fair : Exchange → Prop} {ends : Except Halt α → Prop} {script : Script α}

theorem ComesTo.of_answered {exchanges : List Exchange} {result : Except Halt α}
    (h : script.ComesTo fair ends) (hanswered : script.Answered exchanges result)
    (hfair : ∀ exchange ∈ exchanges, fair exchange) : ends result := by
  induction script generalizing exchanges with
  | done value => exact hanswered.2 ▸ h
  | halt cause => exact hanswered.2 ▸ h
  | ask request next ih =>
    obtain ⟨answer, rest, rfl, hrest⟩ := hanswered
    obtain ⟨hfirst, hlater⟩ := List.forall_mem_cons.1 hfair
    exact ih answer (h answer hfirst) hrest hlater

def thenComesTo (fair : Exchange → Prop) (f : α → Script β) (ends : Except Halt β → Prop) :
    Except Halt α → Prop
  | .ok value => (f value).ComesTo fair ends
  | .error cause => ends (.error cause)

theorem comesTo_bind {f : α → Script β} {ends : Except Halt β → Prop}
    (h : script.ComesTo fair (thenComesTo fair f ends)) : (script >>= f).ComesTo fair ends := by
  induction script with
  | done value => exact h
  | halt cause => exact h
  | ask request next ih => exact fun answer hfair => ih answer (h answer hfair)

theorem comesTo_ofExcept {outcome : Except Halt α} (h : ends outcome) :
    (ofExcept outcome).ComesTo fair ends := by
  cases outcome with
  | ok value => exact h
  | error cause => exact h

theorem comesTo_info {text : String} {ends : Except Halt Unit → Prop} (h : ends (.ok ())) :
    (info text).ComesTo fair ends := fun _ _ => h

theorem comesTo_run {argv : List String} {cwd : Path} {ends : Except Halt CommandResult → Prop}
    (h : ∀ reply, fair ⟨.run ⟨argv, cwd⟩, reply⟩ → ends reply) :
    (run argv cwd).ComesTo fair ends := fun reply hfair => comesTo_ofExcept (h reply hfair)

theorem comesTo_files {request : Request (Except FileFault α)}
    (hfair : ∀ answer, fair ⟨request, answer⟩ → ∃ value, answer = .ok value ∧ ends (.ok value)) :
    (files request).ComesTo fair ends := by
  intro answer h
  obtain ⟨value, rfl, hends⟩ := hfair answer h
  exact hends

end

def under (answers : {Answer : Type} → Request Answer → Answer) : Script α → Except Halt α
  | done value => .ok value
  | halt cause => .error cause
  | ask request next => (next (answers request)).under answers

theorem answered_under (answers : {Answer : Type} → Request Answer → Answer)
    (script : Script α) :
    ∃ exchanges, script.Answered exchanges (script.under answers) ∧
      ∀ exchange ∈ exchanges, exchange.answer = answers exchange.request := by
  induction script with
  | done value => exact ⟨[], ⟨rfl, rfl⟩, by simp⟩
  | halt cause => exact ⟨[], ⟨rfl, rfl⟩, by simp⟩
  | ask request next ih =>
    obtain ⟨exchanges, hanswered, hsame⟩ := ih (answers request)
    exact ⟨_, ⟨_, exchanges, rfl, hanswered⟩, List.forall_mem_cons.2 ⟨rfl, hsame⟩⟩

end Script

end NextRelease
