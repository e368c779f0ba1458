import NextRelease.Proofs.Files.Straight
import NextRelease.Proofs.Run.Strands

/-! Scripts with places of their own. A script comes to a value and brings the files from one state
to another, while others change places of theirs between its requests; so two scripts side by side
come to both values in every order of turns. -/

namespace NextRelease

/-- Outside a territory two trees have the same at every place. -/
def FileTree.AgreeOutside (territory : Place → Prop) (tree tree' : FileTree) : Prop :=
  ∀ place, ¬territory place → tree'.get? place = tree.get? place

def FileTree.Apart (territory : Place → Prop) (holds : FileTree → Prop) : Prop :=
  ∀ tree tree', AgreeOutside territory tree tree' → holds tree → holds tree'

def Conduct.within (territory : Place → Prop) : Conduct where
  allows w w' := w.files.AgreeOutside territory w'.files
  refl _ _ _ := rfl
  trans h h' place hplace := (h' place hplace).trans (h place hplace)

namespace FileTree

variable {territory territory' : Place → Prop} {holds holds' : FileTree → Prop}
  {tree tree' : FileTree}

theorem AgreeOutside.refl (territory : Place → Prop) (tree : FileTree) :
    AgreeOutside territory tree tree := fun _ _ => rfl

theorem AgreeOutside.trans {tree'' : FileTree} (h : AgreeOutside territory tree tree')
    (h' : AgreeOutside territory tree' tree'') : AgreeOutside territory tree tree'' :=
  fun place hplace => (h' place hplace).trans (h place hplace)

theorem AgreeOutside.mono (h : AgreeOutside territory tree tree')
    (himp : ∀ place, territory place → territory' place) : AgreeOutside territory' tree tree' :=
  fun place hplace => h place fun hterritory => hplace (himp place hterritory)

theorem agreeOutside_insert {place : Place} (hnil : place ≠ []) (hplace : territory place)
    (tree : FileTree) (node : FileNode) : AgreeOutside territory tree (tree.insert place node) := by
  intro other hother
  rw [get?_insert _ _ _ _ hnil, if_neg]
  rintro rfl
  exact hother hplace

theorem agreeOutside_addFile (tree : FileTree) (directory : Place) (name : String)
    (content : ByteArray) :
    AgreeOutside (directory <+: ·) tree (tree.addFile directory name content) := by
  obtain hsame | ⟨_, _, hadded⟩ := tree.addFile_cases directory name content
  · rw [hsame]
    exact .refl _ _
  · rw [hadded]
    exact agreeOutside_insert (by simp) (List.prefix_append _ _) _ _

theorem agreeOutside_addLink {place : Place} (hnil : place ≠ []) (hplace : territory place)
    (tree : FileTree) (target : String) :
    AgreeOutside territory tree (tree.addLink place target) := by
  unfold addLink
  split
  · exact .refl _ _
  · exact agreeOutside_insert hnil hplace _ _

theorem Apart.mono (h : Apart territory' holds) (himp : ∀ place, territory place → territory' place) :
    Apart territory holds := fun _ _ hagree => h _ _ (hagree.mono himp)

theorem Apart.and (h : Apart territory holds) (h' : Apart territory holds') :
    Apart territory fun tree => holds tree ∧ holds' tree :=
  fun _ _ hagree ⟨hholds, hholds'⟩ => ⟨h _ _ hagree hholds, h' _ _ hagree hholds'⟩

theorem apart_const (territory : Place → Prop) (p : Prop) : Apart territory fun _ => p :=
  fun _ _ _ h => h

theorem apart_get? {place : Place} (h : ¬territory place) (p : Option FileNode → Prop) :
    Apart territory fun tree => p (tree.get? place) := by
  intro tree tree' hagree hp
  rwa [hagree place h]

end FileTree

open FileTree

def Script.Brings (host : Host) (lane : Lane) (others own : Place → Prop) {α : Type}
    (before : FileTree → Prop) (script : Script α) (after : α → FileTree → Prop) : Prop :=
  ∀ w : World, before w.files → script.Meets host lane (.within others) (.within own)
    (fun result w => ∃ value, result = .ok value ∧ after value w.files) w

namespace Script

variable {host : Host} {lane : Lane} {others own : Place → Prop} {α β : Type}
  {before before' : FileTree → Prop} {after after' : α → FileTree → Prop}

theorem brings_done {value : α} (hbefore : Apart others before)
    (h : ∀ tree, before tree → after value tree) :
    (done value).Brings host lane others own before after :=
  fun _ hw _ hothers => ⟨value, rfl, h _ (hbefore _ _ hothers hw)⟩

theorem brings_ofExcept {outcome : Except Halt α} {value : α} (hbefore : Apart others before)
    (houtcome : outcome = .ok value) (h : ∀ tree, before tree → after value tree) :
    (ofExcept outcome).Brings host lane others own before after := by
  subst houtcome
  exact brings_done hbefore h

theorem brings_of_and {script : Script α} {p : Prop}
    (h : p → script.Brings host lane others own before after) :
    script.Brings host lane others own (fun tree => p ∧ before tree) after :=
  fun w hw => h hw.1 w hw.2

theorem brings_of_holds {script : Script α} {p : Prop}
    (hp : ∀ tree, before tree → p ∧ before' tree)
    (h : p → script.Brings host lane others own before' after) :
    script.Brings host lane others own before after :=
  fun w hw => h (hp _ hw).1 w (hp _ hw).2

theorem brings_bind {script : Script α} {f : α → Script β} {final : β → FileTree → Prop}
    (after : α → FileTree → Prop) (h : script.Brings host lane others own before after)
    (hf : ∀ value, (f value).Brings host lane others own (after value) final) :
    (script >>= f).Brings host lane others own before final := by
  refine fun w hw => meets_bind ((h w hw).mono ?_)
  rintro _ w' ⟨value, rfl, hafter⟩
  exact hf value w' hafter

theorem Brings.mono {script : Script α} (h : script.Brings host lane others own before after)
    (hbefore : ∀ tree, before' tree → before tree)
    (hafter : ∀ value tree, after value tree → after' value tree) :
    script.Brings host lane others own before' after' := by
  refine fun w hw => (h w (hbefore _ hw)).mono ?_
  rintro _ w' ⟨value, rfl, hvalue⟩
  exact ⟨value, rfl, hafter _ _ hvalue⟩

theorem brings_note {level : Level} {text : String} (hbefore : Apart others before) :
    (note level text).Brings host lane others own before fun _ => before :=
  fun _ hw _ hothers => ⟨AgreeOutside.refl _ _,
    fun _ hothers' => ⟨(), rfl, hbefore _ _ (hothers.trans hothers') hw⟩⟩

theorem brings_info {text : String} (hbefore : Apart others before) :
    (info text).Brings host lane others own before fun _ => before := brings_note hbefore

theorem brings_run {argv : List String} {cwd : Path}
    {after : CommandResult → FileTree → Prop} (hbefore : Apart others before)
    (hafter : ∀ result, Apart others (after result))
    (h : ∀ events tree, before tree → ∃ result tree',
      host.runner.respond events tree ⟨argv, cwd⟩ = (.ok result, tree') ∧
        AgreeOutside own tree tree' ∧ after result tree') :
    (run argv cwd).Brings host lane others own before after := by
  intro w hw w' hothers
  obtain ⟨result, tree, hrespond, hagree, hresult⟩ :=
    h w'.events w'.files (hbefore _ _ hothers hw)
  simp only [Request.perform, hrespond, World.record]
  exact ⟨hagree, fun u hothers' => ⟨result, rfl, hafter result _ _ hothers' hresult⟩⟩

theorem brings_files {request : Request (Except FileFault α)} (hbefore : Apart others before)
    (hafter : ∀ value, Apart others (after value))
    (h : ∀ w : World, before w.files → ∃ value w', request.perform host lane w = (.ok value, w') ∧
      AgreeOutside own w.files w'.files ∧ after value w'.files) :
    (files request).Brings host lane others own before after := by
  intro w hw w' hothers
  obtain ⟨value, v, hperform, hagree, hvalue⟩ := h w' (hbefore _ _ hothers hw)
  simp only [hperform]
  exact ⟨hagree, fun u hothers' => ⟨value, rfl, hafter value _ _ hothers' hvalue⟩⟩

theorem brings_isFile {path : Path} {directory : Place} {name : String}
    (hbefore : Apart others before) (hplace : ¬others (directory ++ [name]))
    (h : ∀ tree, before tree → tree.Entry (path.route host.cwd) directory name ∧
      ∀ target, tree.get? (directory ++ [name]) ≠ some (.link target)) :
    (isFile path).Brings host lane others own before fun found tree =>
      found = tree.holdsFile (directory ++ [name]) ∧ before tree := by
  intro w hw w' hothers
  have hw' := hbefore _ _ hothers hw
  obtain ⟨hentry, hlink⟩ := h _ hw'
  have hlater (u : World) (hu : w'.files.AgreeOutside others u.files) :
      u.files.holdsFile (directory ++ [name]) = w'.files.holdsFile (directory ++ [name]) := by
    simp only [holdsFile, hu _ hplace]
  have hsame : AgreeOutside own w'.files ((Request.status path).perform host lane w').2.files := by
    rw [Request.perform, w'.files_look]
    exact AgreeOutside.refl _ _
  refine ⟨hsame, ?_⟩
  simp only [Request.perform]
  obtain ⟨kind, hstatus, hkind⟩ | ⟨hstatus, hnone⟩ := hentry.status hlink
  · rw [hstatus]
    exact fun u hothers' => ⟨_, rfl, (hkind.trans (hlater u hothers').symm), hbefore _ _ hothers' hw'⟩
  · rw [hstatus]
    exact fun u hothers' => ⟨_, rfl, (hnone.trans (hlater u hothers').symm), hbefore _ _ hothers' hw'⟩

theorem brings_readText {path : Path} {after : String → FileTree → Prop}
    (hbefore : Apart others before) (hafter : ∀ text, Apart others (after text))
    (h : ∀ tree, before tree → ∃ bytes text, tree.read (path.route host.cwd) = .ok bytes ∧
      Text.decode? bytes = some text ∧ after text tree) :
    (readText path).Brings host lane others own before after := by
  refine brings_bind (fun bytes tree => ∃ text, Text.decode? bytes = some text ∧
    after text tree) (brings_files hbefore ?_ fun w hw => ?_) fun bytes => ?_
  · rintro bytes tree tree' hagree ⟨text, htext, hholds⟩
    exact ⟨text, htext, hafter text _ _ hagree hholds⟩
  · obtain ⟨bytes, text, hread, htext, hholds⟩ := h _ hw
    exact ⟨bytes, w.record (.read lane path w.files), by rw [Request.perform, hread, World.look_ok],
      AgreeOutside.refl _ _, text, htext, hholds⟩
  · intro w hw
    obtain ⟨text, htext, hholds⟩ := hw
    simp only [htext]
    exact fun w' hothers => ⟨text, rfl, hafter text _ _ hothers hholds⟩

theorem Brings.exec {script : Script α} (h : script.Brings host lane others own before after)
    {w : World} (hw : before w.files) :
    ∃ value w', script.exec host lane w = (.ok value, w') ∧ after value w'.files := by
  obtain ⟨value, hvalue, hafter⟩ := (h w hw).exec.2 _ (AgreeOutside.refl _ _)
  exact ⟨value, _, Prod.ext hvalue rfl, hafter⟩

end Script

theorem Standing.ended_of_ok {α : Type} {begun : Bool} {after : α → FileTree → Prop} {w : World}
    {standing other : Standing α}
    (h : standing.Meets begun (fun result w => ∃ value, result = .ok value ∧ after value w.files) w
      other) (hother : ∀ cause, other ≠ .ended (.error cause)) :
    ∃ value, (standing = .ended (.ok value) ∨ standing = .going (.ok value)) ∧
      after value w.files := by
  cases standing with
  | ended result =>
    obtain ⟨value, rfl, hafter⟩ := h
    exact ⟨value, .inl rfl, hafter⟩
  | going result =>
    obtain ⟨value, rfl, hafter⟩ := h
    exact ⟨value, .inr rfl, hafter⟩
  | withdrawn =>
    obtain ⟨_, cause, hcause⟩ := h
    exact absurd hcause (hother cause)

theorem Run.both_brings {host : Host} {leftLane rightLane : Lane} {left right : Place → Prop}
    {α : Type} {p q : Script α} {before before' : FileTree → Prop}
    {after after' : α → FileTree → Prop} (hp : p.Brings host leftLane right left before after)
    (hq : q.Brings host rightLane left right before' after') {w : World} (hw : before w.files)
    (hw' : before' w.files) :
    ∃ a b w', both leftLane rightLane p q host w = (.ok (a, b), w') ∧ after a w'.files ∧
      after' b w'.files := by
  obtain ⟨strands, houtcome, hleft, hright⟩ := both_meets (hp w hw) (hq w hw')
  have noError {standing other : Standing α} {begun : Bool} {after : α → FileTree → Prop}
      (h : standing.Meets begun
        (fun result w => ∃ value, result = .ok value ∧ after value w.files)
        (both leftLane rightLane p q host w).2 other) (cause : Halt) :
      standing ≠ .ended (.error cause) := by
    rintro rfl
    obtain ⟨value, hvalue, _⟩ := h
    cases hvalue
  obtain ⟨a, ha, hafter⟩ := Standing.ended_of_ok hleft (noError hright)
  obtain ⟨b, hb, hafter'⟩ := Standing.ended_of_ok hright (noError hleft)
  refine ⟨a, b, _, Prod.ext (houtcome.trans ?_) rfl, hafter, hafter'⟩
  obtain ha | ha := ha <;> obtain hb | hb := hb <;> simp only [Strands.outcome, ha, hb] <;> rfl

end NextRelease
