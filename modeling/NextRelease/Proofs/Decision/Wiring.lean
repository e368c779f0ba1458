import NextRelease.Proofs.Decision.Rehearsal

/-! What a computed decision rests on. The record of the run shows both references packed in clones
of their own, the manifests that were found after packing, and both witnesses checked on their own
programs; the version is the one that the table gives for exactly these. -/

namespace NextRelease

open FileTree Script

def Checked (checker : String) (scratch : Path) (program : String) (lane : Lane)
    (holds : FileTree → Prop) (verdict : Bool) (record : List Event) : Prop :=
  ∃ front before result rest,
    record = front ++ .command lane ⟨checkCommand checker program, scratch⟩ before (.ok result) ::
      rest ∧
    commandsOf front = [] ∧ commandsOf rest = [] ∧ holds before ∧
    (verdict = true ↔ result.code = 0)

/-- What a decision was computed from. -/
structure Computation where
  previous : Reference
  current : Reference
  scratch : Path
  /-- The manifests that were found after packing. -/
  oldManifest : Fields
  newManifest : Fields
  base : Version
  /-- The version that the current manifest declares. -/
  declared : Option Version
  forwards : Bool
  backwards : Bool

def Decision.Subject.Chose (s : Decision.Subject) (previous : Reference) (record : List Event) :
    Prop :=
  ∃ listing before tag,
    .command .main ⟨Repository.listCommand s.settings.tagPolicy s.settings.toRef,
      s.repo.rootPath⟩ before (.ok listing) ∈ record ∧
    Repository.Highest (Repository.listedNames listing) previous.name tag ∧ previous.kind = .tag

theorem Decision.Subject.Chose.mono {s : Decision.Subject} {previous : Reference}
    {record record' : List Event} (h : s.Chose previous record) (hsub : record ⊆ record') :
    s.Chose previous record' := by
  obtain ⟨listing, before, tag, hlisted, hhighest⟩ := h
  exact ⟨listing, before, tag, hsub hlisted, hhighest⟩

theorem Decision.Subject.chose_of_course {s : Decision.Subject} {host : Host}
    {previous : Reference} {record : List Event}
    (hnamed : Settings.named? s.settings.fromRef = none)
    (h : s.previousReference.Course host .main record (.ok (some previous))) :
    s.Chose previous record := by
  unfold previousReference at h
  rw [hnamed] at h
  obtain ⟨listing, before, rest, tag, rfl, hhighest, hkind⟩ := Repository.course_highestVersion h
  exact ⟨listing, before, tag, List.mem_cons_self, hhighest, hkind⟩

/-- Both witness files hold the programs of the manifests that were found. -/
def Computation.Written (c : Computation) (host : Host) : FileTree → Prop :=
  Witness.Written host c.scratch (Manifest.entryPoints c.oldManifest)
    (Manifest.entryPoints c.newManifest)

/-- The record of a run shows what a decision was computed from, and the decision follows from it. -/
structure Computation.Explains (c : Computation) (s : Decision.Subject) (host : Host)
    (checked : FileTree → Prop) (d : Decision) (record : List Event) : Prop where
  previous : d.previous = some c.previous
  current : d.current = some c.current
  /-- Unless it is named, the previous reference is chosen. -/
  chosen : Settings.named? s.settings.fromRef = none → s.Chose c.previous record
  scratch : .scratch c.scratch ∈ record
  packedPrevious : s.packaging.Packed c.previous "previous" c.scratch host .previous c.oldManifest
    (laneRecord .previous record)
  packedCurrent : s.packaging.Packed c.current "current" c.scratch host .current c.newManifest
    (laneRecord .current record)
  base : Manifest.Declares c.oldManifest (some c.base) ∨
    Manifest.Declares c.oldManifest none ∧ Version.parse? c.previous.name = some c.base
  declared : Manifest.Declares c.newManifest c.declared
  forwards : Checked s.settings.checker c.scratch Witness.forwardFile .forward checked c.forwards
    (laneRecord .forward record)
  backwards : Checked s.settings.checker c.scratch Witness.backwardFile .backward checked
    c.backwards (laneRecord .backward record)
  version : ∃ v, Version.Follows c.base c.declared c.forwards c.backwards v ∧
    v.print? = some d.version

theorem Checked.mono {checker program : String} {scratch : Path} {lane : Lane}
    {holds holds' : FileTree → Prop} {verdict : Bool} {record : List Event}
    (himp : ∀ tree, holds tree → holds' tree)
    (h : Checked checker scratch program lane holds verdict record) :
    Checked checker scratch program lane holds' verdict record := by
  obtain ⟨front, before, result, rest, hrecord, hfront, hrest, hbefore, hverdict⟩ := h
  exact ⟨front, before, result, rest, hrecord, hfront, hrest, himp before hbefore, hverdict⟩

theorem Computation.Explains.mono {c : Computation} {s : Decision.Subject} {host : Host}
    {checked checked' : FileTree → Prop} {d : Decision} {record : List Event}
    (himp : ∀ tree, checked tree → checked' tree) (h : c.Explains s host checked d record) :
    c.Explains s host checked' d record :=
  { h with forwards := h.forwards.mono himp, backwards := h.backwards.mono himp }

structure Host.SparedWitnesses (host : Host) (w : World) (record : List Event) (scratch : Path) :
    Prop where
  grounded : w.files.Grounded
  grounds : host.Kept FileTree.Grounded w.events record
  forward : host.Spared (scratchRoute host scratch Witness.forwardFile) w.events record
  backward : host.Spared (scratchRoute host scratch Witness.backwardFile) w.events record

/-- No command of a record puts other content into the file at the end of a route. The file may be
removed. -/
def Host.OverwritesNone (host : Host) (route : Route) (past record : List Event) : Prop :=
  ∀ front lane command before reply rest bytes bytes',
    record = front ++ .command lane command before reply :: rest → before.read route = .ok bytes →
      (host.runner.respond (past ++ front) before command).2.read route = .ok bytes' →
        bytes' = bytes

theorem Host.overwritesNone_of_extends {host : Host}
    (h : ∀ past tree command, tree.Extends (host.runner.respond past tree command).2 ∨
      (host.runner.respond past tree command).2.Extends tree) (route : Route)
    (past record : List Event) : host.OverwritesNone route past record := by
  intro front lane command before reply rest bytes bytes' _ hbefore hafter
  obtain hmore | hless := h (past ++ front) before command
  · exact Except.ok.inj (hafter.symm.trans (hmore.read hbefore))
  · exact Except.ok.inj ((hless.read hafter).symm.trans hbefore)

namespace Decision

variable {s : Subject} {host : Host} {w w' : World} {previous current : Reference}

structure Parts (front opening strands waited checks last : List Event) : Prop where
  front : ∀ event ∈ front, event.isIn .main
  opening : ∀ lane ≠ .main, laneRecord lane opening = []
  strands : ∀ event ∈ strands, event.isIn .previous ∨ event.isIn .current
  waited : ∀ event ∈ waited, event.isIn .main
  checks : ∀ event ∈ checks, event.isIn .forward ∨ event.isIn .backward
  last : ∀ event ∈ last, event.isIn .main

section

variable {lane : Lane} {front opening strands waited checks last : List Event}

theorem Parts.inLane (h : Parts front opening strands waited checks last)
    (hmain : lane ≠ .main) :
    laneRecord lane (front ++ (opening ++ (strands ++ (waited ++ (checks ++ last))))) =
      laneRecord lane strands ++ laneRecord lane checks := by
  simp [h.opening lane hmain, laneRecord_eq_nil hmain h.front, laneRecord_eq_nil hmain h.waited,
    laneRecord_eq_nil hmain h.last]

theorem Parts.inLane_strand (h : Parts front opening strands waited checks last)
    (hlane : lane ≠ .main ∧ lane ≠ .forward ∧ lane ≠ .backward) :
    laneRecord lane (front ++ (opening ++ (strands ++ (waited ++ (checks ++ last))))) =
      laneRecord lane strands := by
  obtain ⟨hmain, hforward, hbackward⟩ := hlane
  rw [h.inLane hmain, laneRecord_eq_nil_of_or hforward hbackward h.checks, List.append_nil]

theorem Parts.inLane_check (h : Parts front opening strands waited checks last)
    (hlane : lane ≠ .main ∧ lane ≠ .previous ∧ lane ≠ .current) :
    laneRecord lane (front ++ (opening ++ (strands ++ (waited ++ (checks ++ last))))) =
      laneRecord lane checks := by
  obtain ⟨hmain, hprevious, hcurrent⟩ := hlane
  rw [h.inLane hmain, laneRecord_eq_nil_of_or hprevious hcurrent h.strands, List.nil_append]

end

theorem kept_written {scratch : Path} {old new : List Text} {front middle rest : List Event} :
    host.Kept (fun tree => host.SparedWitnesses w (front ++ (middle ++ rest)) scratch →
      Witness.Written host scratch old new tree) (w.events ++ front) middle := by
  refine Host.Kept.imp fun hspared => ?_
  exact (hspared.forward.content _).of_append_right.of_append_left.and
    (hspared.backward.content _).of_append_right.of_append_left

theorem packed_both {scratch : Path} {old new : Artifact}
    (h : Run.both .previous .current
      (s.packaging.build previous Revision.previous.name scratch)
      (s.packaging.build current Revision.current.name scratch) host w = (.ok (old, new), w')) :
    ∃ record oldManifest newManifest version version',
      w'.events = w.events ++ record ∧
      (∀ event ∈ record, event.isIn .previous ∨ event.isIn .current) ∧
      s.packaging.Packed previous "previous" scratch host .previous oldManifest
        (laneRecord .previous record) ∧
      s.packaging.Packed current "current" scratch host .current newManifest
        (laneRecord .current record) ∧
      Manifest.Declares oldManifest version ∧ Manifest.Declares newManifest version' ∧
      old.entryPoints = Manifest.entryPoints oldManifest ∧
      new.entryPoints = Manifest.entryPoints newManifest ∧
      old.version = version.map (fun v => String.ofList v.render) ∧
      new.version = version'.map (fun v => String.ofList v.render) := by
  obtain ⟨record, hevents, hin, hold, hnew⟩ := Run.both_ok (by decide) h
  obtain ⟨oldManifest, version, hpacked, hversion, rfl⟩ := Packaging.course_build hold
  obtain ⟨newManifest, version', hpacked', hversion', rfl⟩ := Packaging.course_build hnew
  exact ⟨record, oldManifest, newManifest, version, version', hevents, hin, hpacked, hpacked',
    hversion, hversion', rfl, rfl, rfl, rfl⟩

theorem plain_both {scratch : Path} {name : String} {result : Except Halt (Artifact × Artifact)}
    {record : List Event} (hname : IsEntryName name)
    (hrevision : ∀ revision : Revision, name ≠ revision.name)
    (hplain : w.files.Plain (scratchRoute host scratch name))
    (h : Run.both .previous .current
      (s.packaging.build previous Revision.previous.name scratch)
      (s.packaging.build current Revision.current.name scratch) host w = (result, w'))
    (hrecord : w'.events = w.events ++ record)
    (hkept : host.Kept (fun tree => tree.Plain (scratchRoute host scratch name)) w.events record) :
    w'.files.Plain (scratchRoute host scratch name) := by
  have hsince := Run.both_keeps (Packaging.only_build s.packaging previous .previous scratch)
    (Packaging.only_build s.packaging current .current scratch)
    (fun _ hrequest => (hrequest.leaves_plain hname hrevision).keeps_since w)
    (fun _ hrequest => (hrequest.leaves_plain hname hrevision).keeps_since w) .previous .current
    (World.Since.refl host hplain)
  rw [h] at hsince
  exact (hsince.of_kept hrecord hkept).1

theorem checked_both {scratch : Path} {checker program program' : String}
    {forwards backwards : Bool}
    (h : Run.both .forward .backward (typeCheck checker scratch program)
      (typeCheck checker scratch program') host w = (.ok (forwards, backwards), w')) :
    ∃ record, w'.events = w.events ++ record ∧
      (∀ event ∈ record, event.isIn .forward ∨ event.isIn .backward) ∧
      ∀ holds : FileTree → Prop, holds w.files → host.Kept holds w.events record →
        Checked checker scratch program .forward holds forwards (laneRecord .forward record) ∧
        Checked checker scratch program' .backward holds backwards
          (laneRecord .backward record) := by
  obtain ⟨record, hevents, hin, hforward, hbackward⟩ := Run.both_ok (by decide) h
  refine ⟨record, hevents, hin, fun holds hfiles hkept => ?_⟩
  have hlooks (program : String) : (typeCheck checker scratch program).Only
      (Request.Looks fun _ => True) := looks_typeCheck trivial
  have hsince := Run.both_keeps (hlooks program) (hlooks program')
    (fun _ hlooks => hlooks.leaves.keeps_since w) (fun _ hlooks => hlooks.leaves.keeps_since w)
    .forward .backward (World.Since.refl host hfiles)
  rw [h] at hsince
  obtain ⟨_, hbefore⟩ := hsince.of_kept hevents hkept
  -- The check of each strand found the files as they were before both.
  have hchecked {lane : Lane} {program : String} {verdict : Bool}
      (h : (typeCheck checker scratch program).Course host lane (laneRecord lane record)
        (.ok verdict)) :
      Checked checker scratch program lane holds verdict (laneRecord lane record) := by
    obtain ⟨text, before, result, rest, hrecord, hrest, rfl⟩ := course_typeCheck h
    have hmem : .command lane ⟨checkCommand checker program, scratch⟩ before (.ok result) ∈
        laneRecord lane record := by simp [hrecord]
    exact ⟨[.note lane .info text], before, result, rest, hrecord, rfl, hrest,
      hbefore _ _ _ _ (List.mem_filter.1 hmem).1, by simp [CommandResult.ok]⟩
  exact ⟨hchecked hforward, hchecked hbackward⟩

theorem written_of_spared {scratch : Path} {old new : Artifact}
    {looked made packed written : World} {front opening strands rest : List Event}
    (hspared : host.SparedWitnesses w (front ++ (opening ++ (strands ++ rest))) scratch)
    (hlooked : w.Looked host looked) (hfront : looked.events = w.events ++ front)
    (hmake : Scratch.make Scratch.stem none host looked = (.ok scratch, made))
    (hopening : made.events = looked.events ++ opening)
    (hpack : Run.both .previous .current
      (s.packaging.build previous Revision.previous.name scratch)
      (s.packaging.build current Revision.current.name scratch) host made = (.ok (old, new), packed))
    (hstrands : packed.events = made.events ++ strands)
    (hwrite : (Witness.writeWorkspace scratch old new).exec host .main packed = (.ok (), written)) :
    Witness.Written host scratch old.entryPoints new.entryPoints written.files := by
  obtain ⟨_, _, _, hsince⟩ := hlooked
  have hground : looked.files.Grounded := ((hsince w _ (.refl host hspared.grounded)).of_kept hfront
    hspared.grounds.of_append_left).1
  obtain ⟨_, hdirectory, _⟩ := Scratch.make_ok hmake
  have hplain {name : String} (hname : IsEntryName name)
      (hrevision : ∀ revision : Revision, name ≠ revision.name)
      (hspared : host.Spared (scratchRoute host scratch name) w.events
        (front ++ (opening ++ (strands ++ rest)))) :
      packed.files.Plain (scratchRoute host scratch name) := by
    refine plain_both hname hrevision (hground.plain_of_makeDirectory hdirectory hname.2
      (names_scratchRoute host scratch hname)) hpack hstrands ?_
    rw [hopening, hfront]
    exact hspared.plain.of_append_right.of_append_right.of_append_left
  exact Witness.writeWorkspace_written
    (hplain Witness.isEntryName_forwardFile Witness.forwardFile_ne_name hspared.forward)
    (hplain Witness.isEntryName_backwardFile Witness.backwardFile_ne_name hspared.backward) hwrite

theorem looked_of_stages {clean found looked : World} (hclean : w.Looked host clean)
    (hfound : s.previousReference.exec host .main clean = (.ok (some previous), found))
    (hlooking : found.Looked host looked) :
    ∃ front, w.Looked host looked ∧ looked.events = w.events ++ front ∧
      (∀ event ∈ front, event.isIn .main) ∧
      (Settings.named? s.settings.fromRef = none → s.Chose previous front) := by
  obtain ⟨first, hfirst, hinFirst, _⟩ := id hclean
  obtain ⟨middle, hmiddle, hcourse⟩ := s.previousReference.exec_course host .main clean
  obtain ⟨last, hlast, hinLast, _⟩ := id hlooking
  rw [hfound] at hmiddle hcourse
  refine ⟨first ++ (middle ++ last), (hclean.trans (.of_exec (looks_previousReference s) hfound)).trans
    hlooking, by rw [hlast, hmiddle, hfirst]; simp, fun event hevent => ?_, fun hnamed => ?_⟩
  · obtain hevent | hevent := List.mem_append.1 hevent
    · exact hinFirst event hevent
    · exact (List.mem_append.1 hevent).elim (hcourse.isIn event) (hinLast event)
  · exact (Subject.chose_of_course hnamed hcourse).mono
      (fun _ hevent => List.mem_append_right _ (List.mem_append_left _ hevent))

theorem follows_of_decideText {oldManifest newManifest : Fields} {version declared : Option Version}
    {before text : String} {forwards backwards : Bool}
    (hversion : Manifest.Declares oldManifest version)
    (hdeclared : Manifest.Declares newManifest declared)
    (hbefore : versionOf (version.map fun v => String.ofList v.render) previous = .ok before)
    (h : Version.decideText before (declared.map fun v => String.ofList v.render) forwards
      backwards = .ok text) :
    ∃ base, (Manifest.Declares oldManifest (some base) ∨
        Manifest.Declares oldManifest none ∧ Version.parse? previous.name = some base) ∧
      ∃ v, Version.Follows base declared forwards backwards v ∧ v.print? = some text := by
  obtain ⟨base, hbase, hprintable, rfl⟩ := versionOf_ok hversion.isPrintable hbefore
  rw [Version.decideText_eq hprintable hdeclared.isPrintable, Version.decideVersions_eq_ok] at h
  refine ⟨base, ?_, _, Version.follows_next base declared forwards backwards, h⟩
  obtain rfl | ⟨rfl, hname⟩ := hbase
  · exact .inl hversion
  · exact .inr ⟨hversion, hname⟩

section

variable {scratch : Path} {old new : Artifact} {looked made packed written ready examined : World}
  {front opening strands waited checks last : List Event}

theorem checked_of_spared {forwards backwards : Bool} (rest : List Event)
    (hlooked : w.Looked host looked) (hfront : looked.events = w.events ++ front)
    (hmake : Scratch.make Scratch.stem none host looked = (.ok scratch, made))
    (hopening : made.events = looked.events ++ opening)
    (hpack : Run.both .previous .current
      (s.packaging.build previous Revision.previous.name scratch)
      (s.packaging.build current Revision.current.name scratch) host made = (.ok (old, new), packed))
    (hstrands : packed.events = made.events ++ strands)
    (hwrite : (Witness.writeWorkspace scratch old new).exec host .main packed = (.ok (), written))
    (hready : written.Looked host ready) (hwaited : ready.events = written.events ++ waited)
    (hcheck : Run.both .forward .backward
      (typeCheck s.settings.checker scratch Witness.forwardFile)
      (typeCheck s.settings.checker scratch Witness.backwardFile) host ready =
        (.ok (forwards, backwards), examined))
    (hchecks : examined.events = ready.events ++ checks) :
    let holds (tree : FileTree) : Prop :=
      host.SparedWitnesses w (front ++ (opening ++ (strands ++ (waited ++ (checks ++ rest))))) scratch →
        Witness.Written host scratch old.entryPoints new.entryPoints tree
    Checked s.settings.checker scratch Witness.forwardFile .forward holds forwards
        (laneRecord .forward checks) ∧
      Checked s.settings.checker scratch Witness.backwardFile .backward holds backwards
        (laneRecord .backward checks) := by
  intro holds
  obtain ⟨checks', hchecks', _, hchecked⟩ := checked_both hcheck
  obtain rfl : checks' = checks := List.append_cancel_left (hchecks'.symm.trans hchecks)
  have hwritten : written.events = w.events ++ (front ++ (opening ++ strands)) := by
    rw [Witness.events_writeWorkspace hwrite, hstrands, hopening, hfront]
    simp
  have hsplit : front ++ (opening ++ (strands ++ (waited ++ (checks' ++ rest)))) =
      (front ++ (opening ++ strands)) ++ ((waited ++ checks') ++ rest) := by simp
  have hkept : host.Kept holds written.events (waited ++ checks') := by
    simp only [holds, hwritten, hsplit]
    exact kept_written
  have hholds : holds written.files := fun hspared =>
    written_of_spared hspared hlooked hfront hmake hopening hpack hstrands hwrite
  exact hchecked holds (hready.keeps hholds hwaited hkept.of_append_left)
    (hwaited ▸ hkept.of_append_right)

theorem Parts.explains {c : Computation} {checked : FileTree → Prop} {d : Decision}
    (h : Parts front opening strands waited checks last)
    (hprevious : d.previous = some c.previous) (hcurrent : d.current = some c.current)
    (hchosen : Settings.named? s.settings.fromRef = none → s.Chose c.previous front)
    (hscratch : .scratch c.scratch ∈ opening)
    (hpacked : s.packaging.Packed c.previous "previous" c.scratch host .previous c.oldManifest
      (laneRecord .previous strands))
    (hpacked' : s.packaging.Packed c.current "current" c.scratch host .current c.newManifest
      (laneRecord .current strands))
    (hbase : Manifest.Declares c.oldManifest (some c.base) ∨
      Manifest.Declares c.oldManifest none ∧ Version.parse? c.previous.name = some c.base)
    (hdeclared : Manifest.Declares c.newManifest c.declared)
    (hchecked : Checked s.settings.checker c.scratch Witness.forwardFile .forward checked c.forwards
      (laneRecord .forward checks))
    (hchecked' : Checked s.settings.checker c.scratch Witness.backwardFile .backward checked
      c.backwards (laneRecord .backward checks))
    (hversion : ∃ v, Version.Follows c.base c.declared c.forwards c.backwards v ∧
      v.print? = some d.version) :
    c.Explains s host checked d
      (front ++ (opening ++ (strands ++ (waited ++ (checks ++ last))))) where
  previous := hprevious
  current := hcurrent
  chosen hnamed := (hchosen hnamed).mono (List.subset_append_left _ _)
  scratch := by simp [hscratch]
  packedPrevious := by rwa [h.inLane_strand (by decide)]
  packedCurrent := by rwa [h.inLane_strand (by decide)]
  base := hbase
  declared := hdeclared
  forwards := by rwa [h.inLane_check (by decide)]
  backwards := by rwa [h.inLane_check (by decide)]
  version := hversion

end

theorem explains_of_decide {d : Decision} (h : decide s host w = (.ok d, w'))
    (hreason : d.reason = .computed) :
    ∃ (c : Computation) (record : List Event), w'.events = w.events ++ record ∧
      c.Explains s host
        (fun tree => host.SparedWitnesses w record c.scratch → c.Written host tree) d record := by
  obtain ⟨previous, current, clean, found, looked, hclean, hfound, hlooking, _, hcompute⟩ :=
    decide_ok h hreason
  obtain ⟨scratch, made, examined, old, new, ⟨forwards, backwards⟩, before, hmake, hexamine, hbefore,
    hdecide, hd, last, hlast, hinLast⟩ := compute_ok hcompute
  obtain ⟨packed, hpack, hcompare⟩ := examine_ok hexamine
  obtain ⟨written, ready, hwrite, hready, hcheck⟩ := compare_ok hcompare
  obtain ⟨text, _, hmade⟩ := Scratch.make_ok hmake
  obtain ⟨strands, oldManifest, newManifest, version, declared, hstrands, hinStrands, hpacked,
    hpacked', hversion, hdeclared, hentries, hentries', hold, hnew⟩ := packed_both hpack
  obtain ⟨checks, hchecks, hinChecks, _⟩ := checked_both hcheck
  obtain ⟨front, hlooked, hfront, hinFront, hchose⟩ := looked_of_stages hclean hfound hlooking
  have ⟨waited, hwaited, hinWaited, _⟩ := hready
  rw [hold] at hbefore
  rw [hnew] at hdecide
  obtain ⟨base, hbase, hfollows⟩ := follows_of_decideText hversion hdeclared hbefore hdecide
  have hopening (lane : Lane) (hlane : lane ≠ .main) :
      laneRecord lane [.scratch scratch, .note .main .debug text] = [] :=
    List.filter_eq_nil_iff.2 (by simp [Event.isIn, Event.lane?, hlane.symm])
  obtain ⟨hfits, hfits'⟩ := checked_of_spared last hlooked hfront hmake hmade hpack hstrands hwrite
    hready hwaited hcheck hchecks
  rw [hentries, hentries'] at hfits hfits'
  have hparts : Parts front [.scratch scratch, .note .main .debug text] strands waited checks last :=
    ⟨hinFront, hopening, hinStrands, hinWaited, hinChecks, hinLast⟩
  have hexplains := hparts.explains (d := d) (c := ⟨previous, current, scratch, oldManifest,
    newManifest, base, declared, forwards, backwards⟩) (by rw [hd]) (by rw [hd]) hchose
    List.mem_cons_self hpacked hpacked' hbase hdeclared hfits hfits' hfollows
  refine ⟨_, _, ?_, hexplains⟩
  rw [hlast, hchecks, hwaited, Witness.events_writeWorkspace hwrite, hstrands, hmade, hfront]
  simp

/-- A computed decision is the one that the table gives for the manifests that were found after
packing and for the verdicts on the witnesses of these manifests, provided that the commands of the
run left trees and spared the files of the witnesses. -/
theorem decide_eq_table {d : Decision} (hgrounded : w.files.Grounded)
    (hgrounds : ∀ record, w'.events = w.events ++ record →
      host.Kept FileTree.Grounded w.events record)
    (hspared : ∀ record scratch, w'.events = w.events ++ record → .scratch scratch ∈ record →
      host.Spared (scratchRoute host scratch Witness.forwardFile) w.events record ∧
        host.Spared (scratchRoute host scratch Witness.backwardFile) w.events record)
    (h : decide s host w = (.ok d, w')) (hreason : d.reason = .computed) :
    ∃ (c : Computation) (record : List Event), w'.events = w.events ++ record ∧
      c.Explains s host (c.Written host) d record := by
  obtain ⟨c, record, hevents, hexplains⟩ := explains_of_decide h hreason
  obtain ⟨hforward, hbackward⟩ := hspared record c.scratch hevents hexplains.scratch
  exact ⟨c, record, hevents, hexplains.mono fun tree htree =>
    htree ⟨hgrounded, hgrounds record hevents, hforward, hbackward⟩⟩

/-- The highest tag declares nothing, so its name is raised; the branch has lost what it had. -/
def undeclared : Rehearsal where
  history := ⟨[("0.2.0", "3a"), ("v0.3.0", "5b"), ("nightly", "5b")], "main", "7c"⟩
  declared name := if name = "main" then some ⟨0, 3, 7, [], []⟩ else none
  verdict program := program == Witness.backwardFile

theorem sound_undeclared : undeclared.Sound where
  words := by decide
  unique := by decide
  printable := by decide

theorem decide_eq_table_undeclared :
    ∃ (d : Decision) (w' : World),
      Rehearsal.world.files.Grounded ∧
      decide (Rehearsal.subject {}) undeclared.host Rehearsal.world = (.ok d, w') ∧
      d.reason = .computed ∧ d.version = "0.4.0" ∧ d.compatibility = some ⟨false, true⟩ ∧
      ∃ (c : Computation) (record : List Event),
        w'.events = Rehearsal.world.events ++ record ∧
        c.Explains (Rehearsal.subject {}) undeclared.host (c.Written undeclared.host) d record := by
  have htag : Version.parse? "v0.3.0" = some ⟨0, 3, 0, [], []⟩ := by cbv
  have hlower : Version.parse? "0.2.0" = some ⟨0, 2, 0, [], []⟩ := by cbv
  have hnone : Version.parse? "nightly" = none := by cbv
  have htags : ∀ other ∈ undeclared.history.tags, ∀ v, Version.parse? other.1 = some v →
      other.1 = "v0.3.0" ∨ v.isBelow ⟨0, 3, 0, [], []⟩ := by
    intro other hother v hv
    simp only [undeclared, List.mem_cons, List.not_mem_nil, or_false] at hother
    obtain rfl | rfl | rfl := hother
    · cases hlower.symm.trans hv
      exact .inr (by decide)
    · exact .inl rfl
    · cases hnone.symm.trans hv
  have hbest : ("v0.3.0", "5b") ∈ undeclared.history.tags := by decide
  obtain ⟨w', hdecide⟩ := Rehearsal.decide_eq {} sound_undeclared ⟨rfl, rfl⟩ hbest htag htags
    (by decide) (.inr ⟨by decide, htag⟩) (by decide)
  exact ⟨_, w', Rehearsal.grounded_world, hdecide, rfl, by decide, by decide,
    decide_eq_table Rehearsal.grounded_world (fun _ _ => Rehearsal.kept_grounded _ _)
      (fun _ _ _ _ => ⟨Rehearsal.spared _ _ _, Rehearsal.spared _ _ _⟩) hdecide rfl⟩

/-- The first program for two packages that have nothing but their main entry point. -/
def firstProgram : ByteArray :=
  (String.ofList (Witness.program [[]] [[]] "previous" "current")).toUTF8

/-- Whether something else is found than the first program. -/
def misses : Except FileFault ByteArray → Bool
  | .ok bytes => bytes ≠ firstProgram
  | .error _ => true

/-- A run that is tampered with though nothing overwrites a witness. A clone leaves a link to the second
witness in the place of the first one, or the installation removes that. The type checker rejects the
first program and no other. -/
def tampering (links : Bool) : Host :=
  undeclared.host.answering fun tree command =>
    let first := Rehearsal.place (Rehearsal.scratch.child Witness.forwardFile)
    match command.argv with
    | "git" :: "clone" :: _ =>
      let (result, cloned) := undeclared.answer tree command
      if links then some (.ok result, cloned.addLink first Witness.backwardFile) else none
    | "npm" :: "install" :: _ =>
      if links then none else some (.ok { code := 0 }, tree.erase first)
    | _ :: "--noEmit" :: rest =>
      let found := tree.read ((command.cwd.child (rest.getLast?.getD "")).route [])
      some (.ok { code := if misses found then 0 else 1 }, tree)
    | _ => none

theorem extends_tampering (links : Bool) (past : List Event) (tree : FileTree) (command : Command) :
    tree.Extends ((tampering links).runner.respond past tree command).2 ∨
      ((tampering links).runner.respond past tree command).2.Extends tree := by
  refine Host.leaves_answering (fun tree tree' => tree.Extends tree' ∨ tree'.Extends tree)
    (fun _ tree command => .inl (undeclared.extends_answer tree command))
    (fun tree command answered hanswered => ?_) past tree command
  split at hanswered
  · cases links with
    | true =>
      cases hanswered
      exact .inl fun place node h => extends_addLink _ _ _ place node
        (undeclared.extends_answer tree command place node h)
    | false => cases hanswered
  · cases links with
    | true => cases hanswered
    | false =>
      cases hanswered
      exact .inr (extends_erase tree _)
  · cases hanswered
    exact .inl fun _ _ h => h
  · cases hanswered

/-- The version that is computed is `0.3.7` though no command overwrites a witness and the type checker
rejects the first program: the first check did not find that program. -/
def Mistaken (host : Host) : Prop :=
  let route := scratchRoute host Rehearsal.scratch
  let check : Command := ⟨checkCommand "tsc" Witness.forwardFile, Rehearsal.scratch⟩
  (∀ name past record, host.OverwritesNone (route name) past record) ∧
    (∀ past tree, tree.read (route Witness.forwardFile) = .ok firstProgram →
      host.runner.respond past tree check = (.ok { code := 1 }, tree)) ∧
    ∃ (d : Decision) (w' : World) (before : FileTree) (reply : Reply),
      decide (Rehearsal.subject {}) host Rehearsal.world = (.ok d, w') ∧ d.reason = .computed ∧
        d.version = "0.3.7" ∧ .command .forward check before reply ∈ w'.events ∧
        before.read (route Witness.forwardFile) ≠ .ok firstProgram

def endsMistaken (route : Route) : Except Halt Decision × World → Bool
  | (.ok d, w) => d.reason = .computed && d.version == "0.3.7" && w.events.any fun
    | .command .forward command before _ =>
      command = ⟨checkCommand "tsc" Witness.forwardFile, Rehearsal.scratch⟩ &&
        misses (before.read route)
    | _ => false
  | _ => false

theorem mistaken_tampering {links : Bool}
    (h : endsMistaken (scratchRoute (tampering links) Rehearsal.scratch Witness.forwardFile)
      (decide (Rehearsal.subject {}) (tampering links) Rehearsal.world)) :
    Mistaken (tampering links) := by
  refine ⟨fun name => Host.overwritesNone_of_extends (extends_tampering links) _,
    fun past tree hread => ?_, ?_⟩
  · have hrespond : (tampering links).runner.respond past tree
        ⟨checkCommand "tsc" Witness.forwardFile, Rehearsal.scratch⟩ =
          (.ok { code := if misses (tree.read (scratchRoute (tampering links) Rehearsal.scratch
            Witness.forwardFile)) then 0 else 1 }, tree) := rfl
    rw [hrespond, hread]
    simp [misses]
  · obtain ⟨ended, hended⟩ : ∃ ended, decide (Rehearsal.subject {}) (tampering links)
      Rehearsal.world = ended := ⟨_, rfl⟩
    rw [hended] at h
    unfold endsMistaken at h
    split at h
    · next d w =>
      simp only [Bool.and_eq_true, decide_eq_true_eq, beq_iff_eq, List.any_eq_true] at h
      obtain ⟨⟨hreason, hversion⟩, event, hevent, hmissed⟩ := h
      split at hmissed
      · next command before reply =>
        simp only [Bool.and_eq_true, decide_eq_true_eq] at hmissed
        obtain ⟨rfl, hmissed⟩ := hmissed
        refine ⟨d, w, before, reply, hended, hreason, hversion, hevent, fun hread => ?_⟩
        simp [hread, misses] at hmissed
      · cases hmissed
    · cases h

theorem mistaken_of_decide : Mistaken (tampering true) ∧ Mistaken (tampering false) :=
  ⟨mistaken_tampering (by decide +kernel), mistaken_tampering (by decide +kernel)⟩

end Decision

end NextRelease
