import NextRelease.Proofs.Package.Packing
import NextRelease.Proofs.Package.Requests
import NextRelease.Proofs.Run.Scratch

/-! The stages of a decision. A run that comes to a computed decision has gone through all of them:
it looked for the references, packed both revisions, wrote the witnesses, checked them and decided. -/

namespace NextRelease

def World.Looked (host : Host) (w w' : World) : Prop :=
  ∃ record, w'.events = w.events ++ record ∧ (∀ event ∈ record, event.isIn .main) ∧
    ∀ start holds, World.Since host start holds w → World.Since host start holds w'

namespace World.Looked

variable {host : Host} {u v w : World}

theorem refl (host : Host) (w : World) : w.Looked host w :=
  ⟨[], (List.append_nil _).symm, by simp, fun _ _ => id⟩

theorem trans (h : u.Looked host v) (h' : v.Looked host w) : u.Looked host w := by
  obtain ⟨front, hfront, hinFront, hkeeps⟩ := h
  obtain ⟨rest, hrest, hinRest, hkeeps'⟩ := h'
  refine ⟨front ++ rest, by rw [hrest, hfront, List.append_assoc], fun event hevent => ?_,
    fun start holds hsince => hkeeps' start holds (hkeeps start holds hsince)⟩
  exact (List.mem_append.1 hevent).elim (hinFront event) (hinRest event)

theorem record {event : Event} (hlane : event.isIn .main) (hasks : event.Asks fun _ => False) :
    w.Looked host (w.record event) := by
  refine ⟨[event], rfl, by simpa using hlane, fun start holds hsince => ?_⟩
  obtain ⟨record, hevents, hholds⟩ := hsince
  refine ⟨record ++ [event], by rw [World.record, hevents, List.append_assoc], fun hkept => ?_⟩
  obtain ⟨hfiles, hbefore⟩ := hholds hkept.of_append_left
  refine ⟨hfiles, fun lane command before reply hmem => ?_⟩
  obtain hmem | hmem := List.mem_append.1 hmem
  · exact hbefore lane command before reply hmem
  · rw [← List.mem_singleton.1 hmem] at hasks
    exact hasks.elim

theorem of_exec {commands : Command → Prop} {α : Type} {script : Script α}
    {result : Except Halt α} (h : script.Only (Request.Looks commands))
    (hexec : script.exec host .main w = (result, v)) :
    w.Looked host v := by
  obtain ⟨record, hevents, hcourse⟩ := script.exec_course host .main w
  rw [hexec] at hevents
  refine ⟨record, hevents, hcourse.isIn, fun start holds hsince => ?_⟩
  have hlater := h.exec (fun _ hlooks => hlooks.leaves.keeps_since start) .main hsince
  rwa [hexec] at hlater

theorem keeps {holds : FileTree → Prop} {record : List Event} (h : u.Looked host v)
    (hholds : holds u.files) (hrecord : v.events = u.events ++ record)
    (hkept : host.Kept holds u.events record) : holds v.files := by
  obtain ⟨_, _, _, hsince⟩ := h
  exact ((hsince u holds (.refl host hholds)).of_kept hrecord hkept).1

end World.Looked

namespace Run

variable {host : Host} {α β : Type}

theorem lift_bind_ok {script : Script α} {f : α → Run β} {w w' : World} {value : β} :
    ((script : Run α) >>= f) host w = (.ok value, w') ↔
      ∃ middle v, script.exec host .main w = (.ok middle, v) ∧
        f middle host v = (.ok value, w') := bind_ok

theorem withScratch_ok {stem : String} {base : Option Path} {work : Path → Run α} {w w' : World}
    {value : α} (h : withScratch stem base work host w = (.ok value, w')) :
    ∃ scratch made worked, Scratch.make stem base host w = (.ok scratch, made) ∧
      work scratch host made = (.ok value, worked) ∧
      ∃ rest, w'.events = worked.events ++ rest ∧ ∀ event ∈ rest, event.isIn .main := by
  unfold withScratch at h
  split at h
  · cases h
  · next scratch made hmake =>
    cases hwork : work scratch host made with
    | mk result worked =>
      simp only [hwork, Prod.mk.injEq] at h
      obtain ⟨rfl, rfl⟩ := h
      obtain ⟨rest, hevents, hcourse⟩ :=
        (removeTree scratch Scratch.removeRetries 1).exec_course host .main worked
      exact ⟨scratch, made, worked, hmake, hwork, rest, hevents, hcourse.isIn⟩

end Run

theorem course_typeCheck {host : Host} {lane : Lane} {checker program : String} {directory : Path}
    {record : List Event} {verdict : Bool}
    (h : (typeCheck checker directory program).Course host lane record (.ok verdict)) :
    ∃ text before result rest,
      record = .note lane .info text ::
        .command lane ⟨checkCommand checker program, directory⟩ before (.ok result) :: rest ∧
      commandsOf rest = [] ∧ verdict = result.ok := by
  obtain ⟨rest, rfl, hrun⟩ := Script.course_info_bind.1 h
  obtain ⟨result, before, rest, rfl, hend⟩ := Script.course_run_bind hrun
  refine ⟨_, before, result, rest, rfl, ?_⟩
  dsimp only at hend
  split at hend
  · obtain ⟨last, rfl, hlast⟩ := Script.course_info_bind.1 hend
    obtain ⟨rfl, hverdict⟩ := Script.course_done.1 hlast
    exact ⟨rfl, Except.ok.inj hverdict⟩
  · obtain ⟨diagnosed, rfl, hdiagnosed⟩ := Script.course_note_bind.1 hend
    obtain ⟨last, rfl, hlast⟩ := Script.course_info_bind.1 hdiagnosed
    obtain ⟨rfl, hverdict⟩ := Script.course_done.1 hlast
    exact ⟨rfl, Except.ok.inj hverdict⟩

namespace Decision

variable {s : Subject} {host : Host} {w w' : World} {previous current : Reference}

theorem compare_ok {scratch : Path} {old new : Artifact} {compatibility : Compatibility}
    (h : compare s scratch old new host w = (.ok compatibility, w')) :
    ∃ written ready, (Witness.writeWorkspace scratch old new).exec host .main w = (.ok (), written) ∧
      written.Looked host ready ∧
      Run.both .forward .backward (typeCheck s.settings.checker scratch Witness.forwardFile)
        (typeCheck s.settings.checker scratch Witness.backwardFile) host ready =
          (.ok (compatibility.forwards, compatibility.backwards), w') := by
  obtain ⟨_, written, hwrite, hdetecting⟩ := Run.lift_bind_ok.1 h
  obtain ⟨dialect, detected, hdetect, hinstalling⟩ := Run.lift_bind_ok.1 hdetecting
  obtain ⟨_, ready, hinstall, hchecking⟩ := Run.lift_bind_ok.1 hinstalling
  obtain ⟨⟨forwards, backwards⟩, checked, hcheck, hend⟩ := Run.bind_ok.1 hchecking
  obtain ⟨rfl, rfl⟩ := Run.pure_ok.1 hend
  have hinstalls : (Packaging.install scratch dialect "workspace" true).Only
      (Request.Looks fun _ => True) := Packaging.looks_install trivial
  exact ⟨written, ready, hwrite, (World.Looked.of_exec (Dialect.looks_detect (fun _ => True) _)
    hdetect).trans (.of_exec hinstalls hinstall), hcheck⟩

theorem examine_ok {scratch : Path} {old new : Artifact} {compatibility : Compatibility}
    (h : examine s previous current scratch host w = (.ok (old, new, compatibility), w')) :
    ∃ packed, Run.both .previous .current
        (s.packaging.build previous Revision.previous.name scratch)
        (s.packaging.build current Revision.current.name scratch) host w =
          (.ok (old, new), packed) ∧
      compare s scratch old new host packed = (.ok compatibility, w') := by
  obtain ⟨⟨old', new'⟩, packed, hpack, hcomparing⟩ := Run.bind_ok.1 h
  obtain ⟨compatibility', compared, hcompare, hend⟩ := Run.bind_ok.1 hcomparing
  obtain ⟨heq, rfl⟩ := Run.pure_ok.1 hend
  cases heq
  exact ⟨packed, hpack, hcompare⟩

theorem compute_ok {d : Decision} (h : compute s previous current host w = (.ok d, w')) :
    ∃ scratch made examined old new compatibility before,
      Scratch.make Scratch.stem none host w = (.ok scratch, made) ∧
      examine s previous current scratch host made = (.ok (old, new, compatibility), examined) ∧
      versionOf old.version previous = .ok before ∧
      Version.decideText before new.version compatibility.forwards compatibility.backwards =
        .ok d.version ∧
      d = ⟨d.version, .computed, some previous, some current, some compatibility⟩ ∧
      ∃ rest, w'.events = examined.events ++ rest ∧ ∀ event ∈ rest, event.isIn .main := by
  obtain ⟨⟨old, new, compatibility⟩, worked, hwork, hdeciding⟩ := Run.bind_ok.1 h
  obtain ⟨scratch, made, examined, hmake, hexamine, rest, hrest, hin⟩ := Run.withScratch_ok hwork
  obtain ⟨before, ready, hbefore, htext⟩ := Run.lift_bind_ok.1 hdeciding
  simp only [Script.exec_ofExcept, Prod.mk.injEq] at hbefore
  obtain ⟨hbefore, rfl⟩ := hbefore
  cases hversion : Version.decideText before new.version compatibility.forwards
    compatibility.backwards with
  | error cause =>
    simp only [hversion] at htext
    cases htext
  | ok version =>
    simp only [hversion] at htext
    obtain ⟨_, noted, hnote, hend⟩ := Run.lift_bind_ok.1 htext
    obtain ⟨rfl, rfl⟩ := Run.pure_ok.1 hend
    obtain ⟨last, hlast, hinLast, _⟩ := World.Looked.of_exec (Script.looks_info s.repo.Query _) hnote
    refine ⟨scratch, made, examined, old, new, compatibility, before, hmake, hexamine, hbefore,
      hversion, rfl, rest ++ last, by rw [hlast, hrest, List.append_assoc], fun event hevent => ?_⟩
    exact (List.mem_append.1 hevent).elim (hin event) (hinLast event)

theorem versionOf_ok {version : Option Version} {before : String}
    (hprintable : ∀ v ∈ version, v.isPrintable)
    (h : versionOf (version.map fun v => String.ofList v.render) previous = .ok before) :
    ∃ base : Version, (version = some base ∨
        version = none ∧ Version.parse? previous.name = some base) ∧
      base.isPrintable ∧ before = String.ofList base.render := by
  cases version with
  | some base =>
    cases h
    exact ⟨base, .inl rfl, hprintable base rfl, rfl⟩
  | none =>
    simp only [Option.map_none, versionOf, tagVersion] at h
    split at h
    · next base hbase =>
      cases h
      exact ⟨base, .inr ⟨rfl, hbase⟩, Version.isPrintable_of_parse? hbase, rfl⟩
    · cases h

theorem course_keep {lane : Lane} {record : List Event} {d : Decision}
    (h : (keep s previous current).Course host lane record (.ok d)) :
    ∃ front version, (versionAt s previous).Course host lane front (.ok version) ∧
      front ⊆ record ∧ d = ⟨version, .unchanged, some previous, some current, none⟩ := by
  obtain ⟨front, version, rest, rfl, hversion, hrest⟩ := Script.course_bind_ok.1 h
  obtain ⟨last, rfl, hlast⟩ := Script.course_info_bind.1 hrest
  obtain ⟨_, hd⟩ := Script.course_done.1 hlast
  exact ⟨front, version, hversion, List.subset_append_left _ _, Except.ok.inj hd⟩

theorem decide_ok {d : Decision} (h : decide s host w = (.ok d, w'))
    (hreason : d.reason = .computed) :
    ∃ previous current clean found looked, w.Looked host clean ∧
      s.previousReference.exec host .main clean = (.ok (some previous), found) ∧
      found.Looked host looked ∧ previous.commit ≠ current.commit ∧
      compute s previous current host looked = (.ok d, w') := by
  obtain ⟨_, clean, hclean, h⟩ := Run.lift_bind_ok.1 h
  obtain ⟨previous, found, hfound, h⟩ := Run.lift_bind_ok.1 h
  cases previous with
  | none =>
    obtain ⟨_, noted, _, h⟩ := Run.lift_bind_ok.1 h
    obtain ⟨rfl, rfl⟩ := Run.pure_ok.1 h
    cases hreason
  | some previous =>
    obtain ⟨current, chosen, hchosen, h⟩ := Run.lift_bind_ok.1 h
    obtain ⟨_, noted, hnoted, h⟩ := Run.lift_bind_ok.1 h
    split at h
    · change (keep s previous current).exec host .main noted = _ at h
      obtain ⟨record, _, hcourse⟩ := (keep s previous current).exec_course host .main noted
      rw [h] at hcourse
      obtain ⟨_, _, _, _, rfl⟩ := course_keep hcourse
      cases hreason
    · next hne =>
      obtain ⟨_, reached, hreached, h⟩ := Run.lift_bind_ok.1 h
      exact ⟨previous, current, clean, found, reached,
        World.Looked.of_exec (looks_ensureClean s) hclean, hfound,
        ((World.Looked.of_exec (looks_currentReference s) hchosen).trans
          (.of_exec (Script.looks_info s.repo.Query _) hnoted)).trans
            (.of_exec (looks_ensureReachable s previous current) hreached), hne, h⟩

end Decision

end NextRelease
