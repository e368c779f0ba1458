import NextRelease.Proofs.Decision.Wiring

/-! How far a decision raises. It always stands above the version that the previous revision
declares, but above the tag of this revision only if the raised version or the declared one does. -/

namespace NextRelease

open Repository

/-- How a version stands to the one that was raised and to the tag that this one was found at. -/
structure Computation.Raises (c : Computation) (tag v : Version) : Prop where
  above : c.base.isBelow v
  passes : tag.isBelow v ↔ tag.isBelow (c.base.increment (c.base.bumpFor c.forwards c.backwards)) ∨
    ∃ u ∈ c.declared, tag.isBelow u
  /-- Where the tag does not go ahead of what its commit declares. -/
  inStep : c.base.isBelow tag = false → tag.isBelow v

theorem Computation.raises_next (c : Computation) (tag : Version) :
    c.Raises tag (c.base.next c.declared c.forwards c.backwards) where
  above := Version.isBelow_next ..
  passes := Version.isBelow_latest_iff
  inStep h := Version.isBelow_of_not_of_isBelow h (Version.isBelow_next ..)

namespace Decision

variable {s : Subject} {host : Host} {w w' : World}

/-- A computed decision that nobody named a previous reference for is computed from the highest tag
that was listed. It stands above the version that the commit of this tag declares or, if it declares
none, that the tag names. It stands above the tag exactly if the raised version does or the one that
the current revision declares; where the tag did not go ahead of its commit, it does. -/
theorem raises_of_decide {d : Decision} (h : decide s host w = (.ok d, w'))
    (hreason : d.reason = .computed) (hnamed : Settings.named? s.settings.fromRef = none) :
    ∃ (c : Computation) (record : List Event) (listing : CommandResult) (before : FileTree)
      (tag v : Version), w'.events = w.events ++ record ∧
      c.Explains s host (fun _ => True) d record ∧
      .command .main ⟨listCommand s.settings.tagPolicy s.settings.toRef, s.repo.rootPath⟩ before
        (.ok listing) ∈ record ∧
      Highest (listedNames listing) c.previous.name tag ∧
      Version.parse? d.version = some v ∧ c.Raises tag v := by
  obtain ⟨c, record, hevents, hexplains⟩ := explains_of_decide h hreason
  obtain ⟨listing, before, tag, hlisted, hhighest, _⟩ := hexplains.chosen hnamed
  obtain ⟨v, hfollows, hprint⟩ := hexplains.version
  obtain rfl := hfollows.eq_next
  obtain ⟨hprintable, htext⟩ := Version.print?_eq_some.1 hprint
  exact ⟨c, record, listing, before, tag, _, hevents, hexplains.mono fun _ _ => trivial, hlisted,
    hhighest, htext ▸ Version.parse?_render hprintable, c.raises_next tag⟩

/-- A release whose tag went ahead of its manifest: the commit that is tagged with 0.2.0 declares
0.1.0, and a further commit only mends. -/
def lagging (declared : Version) : Rehearsal where
  history := ⟨[("0.1.0", "1a"), ("0.2.0", "2b")], "main", "3c"⟩
  declared name := if name = "main" then some declared else some ⟨0, 1, 0, [], []⟩
  verdict _ := true

theorem decide_lagging (declared : Version) (hprintable : declared.isPrintable) :
    ∃ w', decide (Rehearsal.subject {}) (lagging declared).host Rehearsal.world = (.ok
      ⟨String.ofList (Version.next ⟨0, 1, 0, [], []⟩ (some declared) true true).render, .computed,
        some ⟨"0.2.0", .tag, "2b"⟩, some ⟨"main", .branch, "3c"⟩, some ⟨true, true⟩⟩, w') := by
  have hsound : (lagging declared).Sound := by
    refine ⟨?_, ?_, fun named _ v hv => ?_⟩
    · simp only [lagging, Rehearsal.commits]
      decide
    · simp only [lagging, Rehearsal.commits]
      decide
    · simp only [lagging, Option.mem_def] at hv
      split at hv
      · exact Option.some.inj hv ▸ hprintable
      · exact Option.some.inj hv ▸ by decide
  have htag : Version.parse? "0.2.0" = some ⟨0, 2, 0, [], []⟩ := by cbv
  have hlower : Version.parse? "0.1.0" = some ⟨0, 1, 0, [], []⟩ := by cbv
  have habove : ∀ other ∈ (lagging declared).history.tags, ∀ v,
      Version.parse? other.1 = some v → other.1 = "0.2.0" ∨ v.isBelow ⟨0, 2, 0, [], []⟩ := by
    intro other hother v hv
    simp only [lagging, List.mem_cons, List.not_mem_nil, or_false] at hother
    obtain rfl | rfl := hother
    · cases hlower.symm.trans hv
      exact .inr (by decide)
    · exact .inl rfl
  have hbest : ("0.2.0", "2b") ∈ (lagging declared).history.tags := by simp [lagging]
  exact Rehearsal.decide_eq {} hsound ⟨rfl, rfl⟩ hbest htag habove (by simp [lagging])
    (.inl rfl) (by simp only [lagging]; decide)

/-- The version of the tag is not passed where neither the commit that has it nor the branch declares
it. -/
theorem not_tag_isBelow_decided :
    ∃ (d : Decision) (w' : World) (tag v : Version),
      decide (Rehearsal.subject {}) (lagging ⟨0, 1, 0, [], []⟩).host Rehearsal.world = (.ok d, w') ∧
      d.reason = .computed ∧ d.previous = some ⟨"0.2.0", .tag, "2b"⟩ ∧
      Version.parse? "0.2.0" = some tag ∧ Version.parse? d.version = some v ∧
      tag.isBelow v = false := by
  obtain ⟨w', hdecide⟩ := decide_lagging ⟨0, 1, 0, [], []⟩ (by decide)
  have hversion : String.ofList (Version.next ⟨0, 1, 0, [], []⟩ (some ⟨0, 1, 0, [], []⟩) true
      true).render = "0.1.1" := by decide
  exact ⟨_, w', ⟨0, 2, 0, [], []⟩, ⟨0, 1, 1, [], []⟩, hdecide, rfl, rfl, by cbv,
    hversion ▸ by cbv, by decide⟩

/-- It is passed where the branch declares a version above it. -/
theorem raises_of_decide_lagging :
    ∃ (d : Decision) (w' : World) (c : Computation) (listing : CommandResult) (tag v : Version),
      decide (Rehearsal.subject {}) (lagging ⟨0, 3, 0, [.number 1], []⟩).host Rehearsal.world =
        (.ok d, w') ∧
      d.reason = .computed ∧ Settings.named? (Rehearsal.subject {}).settings.fromRef = none ∧
      Highest (listedNames listing) c.previous.name tag ∧ Version.parse? d.version = some v ∧
      d.version = "0.3.0-1" ∧ c.Raises tag v := by
  obtain ⟨w', hdecide⟩ := decide_lagging ⟨0, 3, 0, [.number 1], []⟩ (by decide)
  have hversion : String.ofList (Version.next ⟨0, 1, 0, [], []⟩
      (some ⟨0, 3, 0, [.number 1], []⟩) true true).render = "0.3.0-1" := by decide
  obtain ⟨c, _, listing, _, tag, v, _, _, _, hhighest, hparse, hraises⟩ :=
    raises_of_decide hdecide rfl rfl
  exact ⟨_, w', c, listing, tag, v, hdecide, rfl, rfl, hhighest, hparse, hversion, hraises⟩

end Decision

end NextRelease
