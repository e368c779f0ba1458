import NextRelease.Proofs.Decision.Rehearsal

/-! The release loop. In each round a commit is added to the history, a version is decided on, a
further commit declares it and is tagged with it. Whatever the commits declare and whatever the type
checker says, the versions ascend, and each round starts from the tag of the one before. -/

namespace NextRelease.Loop

/-- A tag that was made, and its commit. -/
structure Release where
  tag : String
  commit : String
  deriving DecidableEq

/-- A round: the commit that is added to a branch and what its manifest declares, the surroundings
in which the decision is taken, and the commit in which its result is declared. -/
structure Round where
  branch : String
  commit : String
  declared : Option Version
  /-- Tags that name no version. -/
  others : List (String × String)
  subject : Decision.Subject
  host : Host
  world : World
  released : String

/-- What is decided in a round, or why nothing is. -/
def Round.outcome (round : Round) : Except Halt Decision :=
  (Decision.decide round.subject round.host round.world).1

def releases : List Round → List Release
  | [] => []
  | round :: rounds =>
    match round.outcome with
    | .ok d => ⟨d.version, round.released⟩ :: releases rounds
    | .error _ => releases rounds

def Round.history (round : Round) (earlier : List Release) : History :=
  ⟨earlier.map (fun release => (release.tag, release.commit)) ++ round.others, round.branch,
    round.commit⟩

structure Round.Continues (round : Round) (earlier : List Release) : Prop where
  told : (round.history earlier).ToldBy round.host round.subject
  unnamed : round.subject.Unnamed
  others : ∀ tag ∈ round.others, Version.parse? tag.1 = none
  new : ∀ release ∈ earlier, release.commit ≠ round.commit
  last : ∀ release ∈ earlier.head?, ∀ v, Version.parse? release.tag = some v →
    round.host.Packs round.subject.packaging release.tag .previous (some v)
  current : round.host.Packs round.subject.packaging round.branch .current round.declared
  checks : round.host.Checks round.subject.settings.checker
  takes : round.host.TakesNames round.subject.packaging
  room : round.host.HasRoom round.world.files
  increment : ∀ release ∈ earlier.head?, ∀ v, Version.parse? release.tag = some v →
    ∀ forwards backwards,
      round.host.Verdict round.subject.settings.checker Witness.forwardFile forwards →
      round.host.Verdict round.subject.settings.checker Witness.backwardFile backwards →
        (v.increment (v.bumpFor forwards backwards)).isPrintable

/-- Rounds, the last one first, each of which goes on from the releases of those before it. -/
def Proceeds : List Round → Prop
  | [] => True
  | round :: rounds => round.Continues (releases rounds) ∧ Proceeds rounds

/-- Rounds with what was decided in them, the last one first. The first decision is on the initial
version; every other one starts from the tag of the round before and is on a version that stands
strictly above those of all earlier ones and not below the one that the new commit declared. -/
inductive Advances : List Round → List Decision → Prop
  | start : Advances [] []
  | first {round : Round} {d : Decision} : round.outcome = .ok d →
      d.version = Decision.initialVersion → d.previous = none → Advances [round] [d]
  | next {round last : Round} {rounds : List Round} {d e : Decision} {decisions : List Decision}
      {v : Version} : Advances (last :: rounds) (e :: decisions) → round.outcome = .ok d →
      Version.parse? d.version = some v →
      (∀ earlier ∈ e :: decisions, ∃ u, Version.parse? earlier.version = some u ∧ u.isBelow v) →
      d.previous = some ⟨e.version, .tag, last.released⟩ →
      (∀ c ∈ round.declared, v.isBelow c = false) →
      Advances (round :: last :: rounds) (d :: e :: decisions)

variable {round : Round} {rounds : List Round} {d : Decision} {decisions : List Decision}

theorem Advances.releases_eq (h : Advances rounds decisions) :
    releases rounds = List.zipWith (fun round d => ⟨d.version, round.released⟩) rounds decisions := by
  induction h with
  | start => rfl
  | first houtcome _ _ => simp [releases, houtcome]
  | next _ houtcome _ _ _ _ ih =>
    rw [releases, houtcome]
    simp only [ih, List.zipWith_cons_cons]

theorem Advances.above (h : Advances (round :: rounds) (d :: decisions)) :
    ∃ v, Version.parse? d.version = some v ∧
      ∀ earlier ∈ decisions, ∃ u, Version.parse? earlier.version = some u ∧ u.isBelow v := by
  cases h with
  | first _ hversion _ =>
    rw [hversion]
    exact ⟨⟨0, 1, 0, [], []⟩, by cbv, by simp⟩
  | next _ _ hversion habove _ _ => exact ⟨_, hversion, habove⟩

theorem mem_zipWith_tags {rounds : List Round} {decisions : List Decision} {tag : String × String}
    (h : tag ∈ (List.zipWith (fun (round : Round) (d : Decision) =>
      (⟨d.version, round.released⟩ : Release)) rounds decisions).map
        fun release => (release.tag, release.commit)) :
    ∃ d ∈ decisions, d.version = tag.1 := by
  induction rounds generalizing decisions with
  | nil => simp at h
  | cons round rounds ih =>
    cases decisions with
    | nil => simp at h
    | cons d decisions =>
      simp only [List.zipWith_cons_cons, List.map_cons, List.mem_cons] at h
      obtain rfl | h := h
      · exact ⟨d, List.mem_cons_self, rfl⟩
      · obtain ⟨e, he, hversion⟩ := ih h
        exact ⟨e, List.mem_cons_of_mem _ he, hversion⟩

theorem advances_first (h : round.Continues []) : ∃ d, Advances [round] [d] := by
  obtain ⟨w', hdecide⟩ := Decision.decide_initial (w := round.world) h.told h.unnamed
    (fun tag htag => h.others tag (by simpa [Round.history] using htag)) h.room
  exact ⟨_, .first (by rw [Round.outcome, hdecide]) rfl rfl⟩

theorem Advances.highest {last : Round} {e : Decision} {tag : Version}
    (hadvances : Advances (last :: rounds) (e :: decisions))
    (habove : ∀ earlier ∈ decisions, ∃ u, Version.parse? earlier.version = some u ∧ u.isBelow tag)
    (hothers : ∀ other ∈ round.others, Version.parse? other.1 = none) (other : String × String)
    (hother : other ∈ (round.history (releases (last :: rounds))).tags) (v : Version)
    (hv : Version.parse? other.1 = some v) : other.1 = e.version ∨ v.isBelow tag := by
  rw [Round.history, hadvances.releases_eq] at hother
  obtain hother | hother := List.mem_append.1 hother
  · obtain ⟨earlier, hearlier, hversion⟩ := mem_zipWith_tags hother
    obtain rfl | hearlier := List.mem_cons.1 hearlier
    · exact .inl hversion.symm
    · obtain ⟨u, hu, hbelow⟩ := habove earlier hearlier
      rw [hversion, hv] at hu
      exact .inr (Option.some.inj hu ▸ hbelow)
  · rw [hothers other hother] at hv
    cases hv

theorem advances_next {last : Round} {e : Decision}
    (hadvances : Advances (last :: rounds) (e :: decisions))
    (h : round.Continues (releases (last :: rounds))) :
    ∃ d, Advances (round :: last :: rounds) (d :: e :: decisions) := by
  obtain ⟨tag, htag, habove⟩ := hadvances.above
  have hreleases := hadvances.releases_eq
  rw [List.zipWith_cons_cons] at hreleases
  have hlast : (⟨e.version, last.released⟩ : Release) ∈ (releases (last :: rounds)).head? := by
    simp [hreleases]
  have hbest : (e.version, last.released) ∈ (round.history (releases (last :: rounds))).tags := by
    simp [Round.history, hreleases]
  have hpacks := h.last ⟨e.version, last.released⟩ hlast tag htag
  have hincrement := h.increment ⟨e.version, last.released⟩ hlast tag htag
  have hnew := h.new ⟨e.version, last.released⟩ (List.mem_of_mem_head? hlast)
  have hhighest := hadvances.highest habove h.others
  obtain ⟨forwards, backwards, w', hdecide, hprintable, _, _⟩ :=
    Decision.decide_computed h.told h.unnamed hbest htag hhighest hnew hpacks h.current h.checks
      h.takes h.room (.inl rfl) hincrement
  have hnext := Version.isBelow_next tag round.declared forwards backwards
  have houtcome : round.outcome = .ok _ := congrArg Prod.fst hdecide
  refine ⟨_, .next hadvances houtcome (Version.parse?_render hprintable)
    (fun earlier hearlier => ?_) rfl fun c hc => ?_⟩
  · obtain rfl | hearlier := List.mem_cons.1 hearlier
    · exact ⟨tag, htag, hnext⟩
    · obtain ⟨u, hu, hbelow⟩ := habove earlier hearlier
      exact ⟨u, hu, Version.isBelow_trans hbelow hnext⟩
  · rw [Option.mem_def.1 hc]
    exact Version.not_latest_isBelow_declared _ c

/-- Every round of the loop comes to a decision. The first one is on the initial version, and the
versions ascend from there, each from the tag of the round before. -/
theorem advances_of_proceeds (h : Proceeds rounds) : ∃ decisions, Advances rounds decisions := by
  induction rounds with
  | nil => exact ⟨[], .start⟩
  | cons round rounds ih =>
    obtain ⟨decisions, hadvances⟩ := ih h.2
    cases hadvances with
    | start =>
      obtain ⟨d, hfirst⟩ := advances_first h.1
      exact ⟨[d], hfirst⟩
    | first houtcome hversion hprevious =>
      obtain ⟨d, hnext⟩ := advances_next (.first houtcome hversion hprevious) h.1
      exact ⟨_, hnext⟩
    | next hearlier houtcome hparse habove hprevious hdeclared =>
      obtain ⟨d, hnext⟩ :=
        advances_next (.next hearlier houtcome hparse habove hprevious hdeclared) h.1
      exact ⟨_, hnext⟩

/-! ## Rehearsed rounds -/

/-- A commit that is added after some releases, with what it declares and what the type checker is
to say. Each tag declares the version that it names. -/
def rehearsal (branch commit : String) (declared : Option Version) (verdict : String → Bool)
    (earlier : List Release) : Rehearsal where
  history := ⟨earlier.map fun release => (release.tag, release.commit), branch, commit⟩
  declared name := if name = branch then declared else Version.parse? name
  verdict := verdict

def rehearse (branch commit : String) (declared : Option Version) (verdict : String → Bool)
    (earlier : List Release) (released : String) : Round where
  branch := branch
  commit := commit
  declared := declared
  others := []
  subject := Rehearsal.subject {}
  host := (rehearsal branch commit declared verdict earlier).host
  world := Rehearsal.world
  released := released

variable {branch commit : String} {declared : Option Version} {verdict : String → Bool}
  {earlier : List Release}

theorem continues_rehearse (released : String)
    (hsound : (rehearsal branch commit declared verdict earlier).Sound)
    (hnew : ∀ release ∈ earlier, release.tag ≠ branch ∧ release.commit ≠ commit)
    (hincrement : ∀ release ∈ earlier.head?, ∀ v, Version.parse? release.tag = some v →
      (v.increment (v.bumpFor (verdict Witness.forwardFile)
        (verdict Witness.backwardFile))).isPrintable) :
    (rehearse branch commit declared verdict earlier released).Continues earlier where
  told := by
    have hhistory : (rehearse branch commit declared verdict earlier released).history earlier =
        (rehearsal branch commit declared verdict earlier).history :=
      congrArg (History.mk · branch commit) (List.append_nil _)
    rw [hhistory]
    exact Rehearsal.toldBy hsound
  unnamed := ⟨rfl, rfl⟩
  others := by simp [rehearse]
  new release hrelease := (hnew release hrelease).2
  last release hrelease v hv := by
    have hmem := List.mem_of_mem_head? hrelease
    have hnamed : (release.tag, release.commit) ∈
        (rehearsal branch commit declared verdict earlier).commits :=
      List.mem_cons_of_mem _ (List.mem_map_of_mem hmem)
    have hdeclared : (rehearsal branch commit declared verdict earlier).declared release.tag =
        some v := (if_neg (hnew release hmem).1).trans hv
    exact hdeclared ▸ Rehearsal.packs hsound hnamed .previous
  current := by
    have hdeclared : (rehearsal branch commit declared verdict earlier).declared branch = declared :=
      if_pos rfl
    have hpacks : (rehearse branch commit declared verdict earlier released).host.Packs
        (Rehearsal.subject {}).packaging branch .current
          ((rehearsal branch commit declared verdict earlier).declared branch) :=
      Rehearsal.packs hsound List.mem_cons_self .current
    rwa [hdeclared] at hpacks
  checks := Rehearsal.checks _
  takes := Rehearsal.takesNames
  room := Rehearsal.hasRoom_world
  increment release hrelease v hv forwards backwards hforward hbackward := by
    rw [Rehearsal.verdict_eq hforward, Rehearsal.verdict_eq hbackward]
    exact hincrement release hrelease v hv

theorem outcome_rehearse (released : String)
    (hsound : (rehearsal branch commit declared verdict earlier).Sound) {last : Release}
    {tag : Version} (hlast : last ∈ earlier) (htag : Version.parse? last.tag = some tag)
    (habove : ∀ release ∈ earlier, ∀ v, Version.parse? release.tag = some v →
      release.tag = last.tag ∨ v.isBelow tag)
    (hnew : last.tag ≠ branch ∧ last.commit ≠ commit)
    (hincrement : (tag.increment (tag.bumpFor (verdict Witness.forwardFile)
      (verdict Witness.backwardFile))).isPrintable) :
    ∃ d, (rehearse branch commit declared verdict earlier released).outcome = .ok d ∧
      d.version = String.ofList (tag.next declared (verdict Witness.forwardFile)
        (verdict Witness.backwardFile)).render := by
  have hbest : (last.tag, last.commit) ∈
      (rehearsal branch commit declared verdict earlier).history.tags := List.mem_map_of_mem hlast
  have hhighest : ∀ other ∈ (rehearsal branch commit declared verdict earlier).history.tags,
      ∀ v, Version.parse? other.1 = some v → other.1 = last.tag ∨ v.isBelow tag := by
    intro other hother
    obtain ⟨release, hrelease, rfl⟩ := List.mem_map.1 hother
    exact habove release hrelease
  have hdeclared : (rehearsal branch commit declared verdict earlier).declared last.tag = some tag :=
    (if_neg hnew.1).trans htag
  have hcurrent : (rehearsal branch commit declared verdict earlier).declared branch = declared :=
    if_pos rfl
  obtain ⟨w', hdecide⟩ := Rehearsal.decide_eq {} hsound ⟨rfl, rfl⟩ hbest htag hhighest hnew.2
    (.inl hdeclared) hincrement
  refine ⟨_, congrArg Prod.fst hdecide, ?_⟩
  exact congrArg (fun declared => String.ofList (tag.next declared (verdict Witness.forwardFile)
    (verdict Witness.backwardFile)).render) hcurrent

theorem sound_rehearsal
    (hwords : ∀ named ∈ (rehearsal branch commit declared verdict earlier).commits,
      Text.IsWord named.1 ∧ Text.IsWord named.2)
    (hunique : ∀ named ∈ (rehearsal branch commit declared verdict earlier).commits,
      ∀ other ∈ (rehearsal branch commit declared verdict earlier).commits,
        other.1 = named.1 → other = named)
    (hdeclared : ∀ v ∈ declared, v.isPrintable) :
    (rehearsal branch commit declared verdict earlier).Sound := by
  refine ⟨hwords, hunique, fun named _ v hv => ?_⟩
  simp only [rehearsal] at hv
  split at hv
  · exact hdeclared v hv
  · exact Version.isPrintable_of_parse? hv

theorem releases_cons (h : round.outcome = .ok d) :
    releases (round :: rounds) = ⟨d.version, round.released⟩ :: releases rounds := by
  rw [releases, h]

def firstRound : Round :=
  rehearse "main" "1a" (some ⟨2, 0, 0, [], []⟩) (fun _ => false) [] "1b"

def secondRound : Round :=
  rehearse "main" "2a" (some ⟨0, 3, 0, [.number 1], []⟩) (fun _ => false) [⟨"0.1.0", "1b"⟩] "2b"

def thirdRound : Round :=
  rehearse "main" "3a" none (fun _ => true) [⟨"0.3.0-1", "2b"⟩, ⟨"0.1.0", "1b"⟩] "3b"

theorem continues_firstRound : firstRound.Continues [] := by
  refine continues_rehearse "1b" (sound_rehearsal ?_ (by decide) (by decide)) (by simp) (by simp)
  decide

theorem releases_firstRound : releases [firstRound] = [⟨"0.1.0", "1b"⟩] := by
  have hnone : ∀ tag ∈ (firstRound.history []).tags, Version.parse? tag.1 = none := by
    simp [Round.history, firstRound, rehearse]
  obtain ⟨w', hdecide⟩ := Decision.decide_initial continues_firstRound.told
    continues_firstRound.unnamed hnone continues_firstRound.room
  exact releases_cons (congrArg Prod.fst hdecide)

theorem releases_secondRound :
    secondRound.Continues [⟨"0.1.0", "1b"⟩] ∧
      releases [secondRound, firstRound] = [⟨"0.3.0-1", "2b"⟩, ⟨"0.1.0", "1b"⟩] := by
  have htag : Version.parse? "0.1.0" = some ⟨0, 1, 0, [], []⟩ := by cbv
  have hsound : (rehearsal "main" "2a" (some ⟨0, 3, 0, [.number 1], []⟩) (fun _ => false)
      [⟨"0.1.0", "1b"⟩]).Sound := by
    exact sound_rehearsal (by decide) (by decide) (by decide)
  obtain ⟨d, houtcome, hversion⟩ := outcome_rehearse "2b" hsound (List.mem_singleton_self _) htag
    (by simp) (by decide) (by decide)
  refine ⟨continues_rehearse "2b" hsound (by decide) fun release hrelease v hv => ?_, ?_⟩
  · obtain rfl : _ = release := by simpa using hrelease
    cases htag.symm.trans hv
    decide
  · have hreleases : releases [secondRound, firstRound] = _ := releases_cons houtcome
    rw [hreleases, hversion, releases_firstRound]
    decide

theorem proceeds_rounds : Proceeds [thirdRound, secondRound, firstRound] := by
  obtain ⟨hcontinues, hreleases⟩ := releases_secondRound
  have htag : Version.parse? "0.3.0-1" = some ⟨0, 3, 0, [.number 1], []⟩ := by cbv
  refine ⟨?_, ?_, continues_firstRound, trivial⟩
  · rw [hreleases]
    refine continues_rehearse "3b" (sound_rehearsal ?_ (by decide) (by decide)) (by decide)
      fun release hrelease v hv => ?_
    · decide
    · obtain rfl : _ = release := by simpa using hrelease
      cases htag.symm.trans hv
      decide
  · rw [releases_firstRound]
    exact hcontinues

theorem advances_of_proceeds_thrice :
    Proceeds [thirdRound, secondRound, firstRound] ∧
      ∃ decisions, Advances [thirdRound, secondRound, firstRound] decisions :=
  ⟨proceeds_rounds, advances_of_proceeds proceeds_rounds⟩

/-- A first round in a repository whose only tag names no version, where every command succeeds. -/
def separatedRound : Round :=
  { rehearse "main" "1a" none (fun _ => true) [] "1b" with
    others := [("x\u20280.1.0", "9f")]
    host := (rehearsal "main" "1a" none (fun _ => true) []).host.answering fun tree command =>
      match command.argv with
      | "git" :: "tag" :: _ =>
        some (.ok { code := 0, out := Text.wordLines ["x\u20280.1.0"] }, tree)
      | "git" :: "rev-parse" :: words =>
        some (.ok (Rehearsal.printed
          (if words.getLast? = some "main^\x7bcommit\x7d" then "1a" else "9f")), tree)
      | _ => none }

/-- What stands behind a line separator in the name of a tag is taken for a version: the first round does
not decide on the initial version. -/
theorem misled_of_outcome :
    (∀ tag ∈ separatedRound.others, Version.parse? tag.1 = none) ∧
    (∀ past tree command, ∃ result,
      (separatedRound.host.runner.respond past tree command).1 = .ok result ∧ result.code = 0) ∧
    separatedRound.outcome = .ok
      ⟨"0.1.1", .computed, some ⟨"0.1.0", .tag, "9f"⟩, some ⟨"main", .branch, "1a"⟩,
        some ⟨true, true⟩⟩ := by
  refine ⟨fun tag htag => ?_, fun past tree command => ?_, eq_ok_of_toOption (by decide +kernel)⟩
  · obtain rfl := List.mem_singleton.1 htag
    cbv
  · obtain ⟨words, cwd⟩ := command
    simp only [separatedRound, Host.answering]
    split
    · exact ⟨_, rfl, rfl⟩
    · exact ⟨_, rfl, rfl⟩
    · next hverify =>
      refine ⟨_, rfl, ?_⟩
      split
      case h_3 words hargv => exact (hverify words hargv).elim
      all_goals rfl

end NextRelease.Loop
