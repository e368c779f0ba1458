import NextRelease.Proofs.Decision.Raising
import NextRelease.Proofs.Release.Performing
import NextRelease.Proofs.Release.Reporting

/-! The table is asked for versions only. Whatever manifests and names a run comes upon, the texts
that it decides on are written forms, so that no version is left undecided but one whose numbers are
too long to be written; and what is decided can be held against every version that is expected. -/

namespace NextRelease

theorem Manifest.parse_ne_undecided {text source : String} {depth : Nat} {cause : Version.Undecided} :
    parse text source depth ≠ .error (.fault (.undecided cause)) := by
  unfold parse
  dsimp only
  split <;> nofun

theorem Halt.From.of_undecided {host : Host} {stated : Failure → Prop} {record : List Event}
    {cause : Version.Undecided} {depth : Nat} (h : (Halt.fault (.undecided cause)).From host stated depth record) :
    cause = .unprintable ∨ ∃ lane command before,
      .command lane command before (.error (.fault (.undecided cause))) ∈ record := by
  cases h with
  | reply hreply => exact .inr ⟨_, _, _, hreply⟩
  | unreadable _ _ hparse => exact absurd hparse Manifest.parse_ne_undecided
  | unprintable => exact .inl rfl

theorem Release.checkExpected_ne_incomparable {computed : String} {v : Version}
    (h : Version.parse? computed = some v) (expected : Option String) :
    checkExpected computed expected ≠ .error .incomparable := by
  unfold checkExpected
  cases expected with
  | none => nofun
  | some text =>
    simp only [h]
    split
    · nofun
    · split <;> nofun

namespace Decision

variable {s : Subject} {host : Host} {w w' v : World} {previous current : Reference}
  {old new : Artifact} {compatibility : Compatibility}

/-- How a run ends as far as its version goes. -/
inductive Certain (record : List Event) : Except Halt Decision → Prop
  /-- The version is in normal form, and it is compared with any that is expected. -/
  | decided {d : Decision} {version : Version} : Version.parse? d.version = some version →
      version.print? = some d.version →
      (∀ expected, Release.checkExpected d.version expected ≠ .error .incomparable) →
        Certain record (.ok d)
  | tooLong : Certain record (.error (.fault (.undecided .unprintable)))
  /-- A command came back with what stopped the run. -/
  | replied {cause : Halt} {lane : Lane} {command : Command} {before : FileTree} :
      .command lane command before (.error cause) ∈ record → Certain record (.error cause)
  | stopped {cause : Halt} : (∀ undecided, cause ≠ .fault (.undecided undecided)) →
      Certain record (.error cause)

theorem certain_of_from {stated : Failure → Prop} {record : List Event} {cause : Halt}
    {depth : Nat} (h : cause.From host stated depth record) : Certain record (.error cause) := by
  by_cases hundecided : ∃ undecided, cause = .fault (.undecided undecided)
  · obtain ⟨undecided, rfl⟩ := hundecided
    obtain rfl | ⟨lane, command, before, hreply⟩ := h.of_undecided
    · exact .tooLong
    · exact .replied hreply
  · exact .stopped fun undecided hcause => hundecided ⟨undecided, hcause⟩

theorem ensures_certain (s : Subject) (host : Host) (w : World) :
    (decide s).Ensures host w fun result record _ => Certain record result := by
  refine (accounted_decide (Nat.zero_le _) (Nat.zero_le _) w).performed.mono fun result record w' ⟨hends, hdecide⟩ => ?_
  cases result with
  | error cause => exact certain_of_from hends
  | ok d =>
    obtain ⟨version, hprint⟩ := (normal_of_decide hdecide).1
    have hparse := Version.parse?_of_print? hprint
    exact .decided hparse hprint (Release.checkExpected_ne_incomparable hparse)

/-! ## The table -/

/-- A run packs two revisions and checks them against each other. -/
def Subject.Compares (s : Subject) (host : Host) (w : World) (previous current : Reference)
    (old new : Artifact) (compatibility : Compatibility) (v : World) : Prop :=
  ∃ surveyed, (survey s).exec host .main w = (.ok (.inr (previous, current)), surveyed) ∧
    Run.withScratch Scratch.stem none (examine s previous current) host surveyed =
      (.ok (old, new, compatibility), v)

structure Asks (previous : Reference) (old new : Artifact) (base : Version)
    (declared : Option Version) : Prop where
  base : ∃ text, versionOf old.version previous = .ok text ∧ base.print? = some text
  declared : HasVersion new declared

/-- What comes of two revisions that were checked against each other. Neither of the texts that the
table is given is ever at fault. -/
inductive Tabled (previous current : Reference) (old new : Artifact)
    (compatibility : Compatibility) : Except Halt Decision → Prop
  | unversioned : old.version = none → Version.parse? previous.name = none →
      Tabled previous current old new compatibility
        (.error (.failure (.malformedManifest (.undeclared previous.name))))
  | tooLong {base : Version} {declared : Option Version} : Asks previous old new base declared →
      (base.next declared compatibility.forwards compatibility.backwards).print? = none →
        Tabled previous current old new compatibility (.error (.fault (.undecided .unprintable)))
  | decided {base : Version} {declared : Option Version} {version : String} :
      Asks previous old new base declared →
      (base.next declared compatibility.forwards compatibility.backwards).print? = some version →
        Tabled previous current old new compatibility
          (.ok ⟨version, .computed, some previous, some current, some compatibility⟩)

theorem decide_eq_settle (h : s.Compares host w previous current old new compatibility v) :
    decide s host w = settle previous current old new compatibility host v := by
  obtain ⟨surveyed, hsurvey, hexamine⟩ := h
  rw [decide_eq_survey, Run.bind_of_ok (show (survey s : Run _) host w = _ from hsurvey), conclude,
    compute_eq_settle, Run.bind_of_ok hexamine]

theorem hasVersion_of_compares
    (h : s.Compares host w previous current old new compatibility v) :
    (∃ version, HasVersion old version) ∧ ∃ version, HasVersion new version := by
  obtain ⟨surveyed, _, hscratch⟩ := h
  obtain ⟨scratch, made, worked, _, hexamine, _⟩ := Run.withScratch_ok hscratch
  obtain ⟨packed, hpack, _⟩ := examine_ok hexamine
  obtain ⟨record, _, _, hold, hnew⟩ := Run.both_ok (by decide) hpack
  exact ⟨(versioned_of_build hold).imp fun _ => And.left,
    (versioned_of_build hnew).imp fun _ => And.left⟩

theorem versionOf_eq_error {declared : Option String} {cause : Halt}
    (h : versionOf declared previous = .error cause) :
    declared = none ∧ Version.parse? previous.name = none ∧
      cause = .failure (.malformedManifest (.undeclared previous.name)) := by
  unfold versionOf at h
  split at h
  · cases h
  · unfold tagVersion at h
    split at h
    · cases h
    · next hname =>
      cases h
      exact ⟨rfl, hname, rfl⟩

theorem tabled_of_compares (h : s.Compares host w previous current old new compatibility v) :
    Tabled previous current old new compatibility (decide s host w).1 := by
  obtain ⟨⟨oldVersion, hold⟩, newVersion, hnew⟩ := hasVersion_of_compares h
  rw [decide_eq_settle h]
  have hasked {before : String} (hbefore : versionOf old.version previous = .ok before) :
      ∃ base, Asks previous old new base newVersion ∧
        Version.decideText before new.version compatibility.forwards compatibility.backwards =
          Version.decideVersions (some base) newVersion compatibility.forwards
            compatibility.backwards := by
    obtain ⟨base, _, hprintable, rfl⟩ := versionOf_ok hold.1 (hold.2 ▸ hbefore)
    refine ⟨base, ⟨⟨_, hbefore, Version.print?_eq_some.2 ⟨hprintable, rfl⟩⟩, hnew⟩, ?_⟩
    rw [hnew.2, Version.decideText_eq hprintable hnew.1]
  cases settle_cases previous current old new compatibility with
  | unversioned hbefore hsettle =>
    obtain ⟨hnone, hname, rfl⟩ := versionOf_eq_error hbefore
    rw [hsettle]
    exact .unversioned hnone hname
  | undecided hbefore htext hsettle =>
    obtain ⟨base, hasks, heq⟩ := hasked hbefore
    obtain ⟨hnone, rfl⟩ := Version.decideVersions_eq_error.1 (heq.symm.trans htext)
    rw [hsettle]
    exact .tooLong hasks hnone
  | decided text hbefore htext hsettle =>
    obtain ⟨base, hasks, heq⟩ := hasked hbefore
    rw [hsettle]
    exact .decided hasks (Version.decideVersions_eq_ok.1 (heq.symm.trans htext))

theorem compares_of_decide {d : Decision} (h : decide s host w = (.ok d, w'))
    (hreason : d.reason = .computed) :
    ∃ previous current old new compatibility v,
      s.Compares host w previous current old new compatibility v := by
  rw [decide_eq_survey] at h
  obtain ⟨found, surveyed, hsurvey, hconclude⟩ := Run.lift_bind_ok.1 h
  cases found with
  | inl kept =>
    obtain ⟨rfl, _⟩ := Run.pure_ok.1 hconclude
    obtain ⟨record, _, hcourse⟩ := (survey s).exec_course host .main w
    rw [hsurvey] at hcourse
    exact absurd hreason (reason_of_survey hcourse)
  | inr references =>
    obtain ⟨⟨old, new, compatibility⟩, v, hexamine, _⟩ := Run.bind_ok.1 hconclude
    exact ⟨_, _, old, new, compatibility, v, surveyed, hsurvey, hexamine⟩

/-- Whatever the manifests hold and the references are called, a decided version is in normal form:
it is read, printing it gives it back, and it is compared with any version that is expected. A run is
never at a loss for the texts that it decides on. Where it has compared two revisions, these are
written forms, and it comes to a version unless the one that the table gives is too long. -/
theorem certain_of_decide (s : Subject) (host : Host) (w : World) :
    (∃ record, (decide s host w).2.events = w.events ++ record ∧
      Certain record (decide s host w).1) ∧
    ∀ previous current old new compatibility v,
      s.Compares host w previous current old new compatibility v →
        Tabled previous current old new compatibility (decide s host w).1 :=
  ⟨ensures_certain s host w, fun _ _ _ _ _ _ => tabled_of_compares⟩

theorem certain_of_decide_lagging :
    ∃ (d : Decision) (w' : World) (version : Version) (previous current : Reference)
      (old new : Artifact) (compatibility : Compatibility) (v : World),
      decide (Rehearsal.subject {}) (lagging ⟨0, 1, 0, [], []⟩).host Rehearsal.world = (.ok d, w') ∧
      d.version = "0.1.1" ∧ Version.parse? d.version = some version ∧
      version.print? = some d.version ∧
      (Rehearsal.subject {}).Compares (lagging ⟨0, 1, 0, [], []⟩).host Rehearsal.world previous
        current old new compatibility v ∧
      Tabled previous current old new compatibility (.ok d) := by
  obtain ⟨w', hdecide⟩ := decide_lagging ⟨0, 1, 0, [], []⟩ (by decide)
  obtain ⟨previous, current, old, new, compatibility, v, hcompares⟩ := compares_of_decide hdecide rfl
  obtain ⟨⟨record, _, hcertain⟩, htabled⟩ := certain_of_decide (Rehearsal.subject {})
    (lagging ⟨0, 1, 0, [], []⟩).host Rehearsal.world
  have htabled := htabled previous current old new compatibility v hcompares
  rw [hdecide] at hcertain htabled
  cases hcertain with
  | decided hparse hprint _ =>
    exact ⟨_, w', _, previous, current, old, new, compatibility, v, hdecide, by decide, hparse,
      hprint, hcompares, htabled⟩

end Decision

end NextRelease
