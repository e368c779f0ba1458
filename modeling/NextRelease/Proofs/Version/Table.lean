import NextRelease.Proofs.Version.Order
import NextRelease.Proofs.Version.RoundTrip

/-! The decision table by its rows, and the texts that are decided by it. What is decided goes on from
the previous version, is decided again where it is declared, and ascends with all that it is decided
from. -/

namespace NextRelease.Version

inductive Raises (previous : Version) : (forwards backwards : Bool) → Bump → Prop where
  | compatible : Raises previous true true .patch
  | extended : Raises previous true false .minor
  | broken {backwards : Bool} : previous.major ≠ 0 → Raises previous false backwards .major
  | brokenBelowOne {backwards : Bool} : previous.major = 0 → Raises previous false backwards .minor

theorem raises_iff {previous : Version} {forwards backwards : Bool} {bump : Bump} :
    Raises previous forwards backwards bump ↔ previous.bumpFor forwards backwards = bump := by
  constructor
  · intro h
    cases h with
    | compatible => rfl
    | extended => rfl
    | broken hmajor => simp [bumpFor, hmajor]
    | brokenBelowOne hmajor => simp [bumpFor, hmajor]
  · rintro rfl
    cases forwards with
    | true => cases backwards <;> constructor
    | false =>
      by_cases hmajor : previous.major = 0
      · simpa [bumpFor, hmajor] using Raises.brokenBelowOne hmajor
      · simpa [bumpFor, hmajor] using Raises.broken hmajor

inductive Follows (previous : Version) (declared : Option Version) (forwards backwards : Bool) :
    Version → Prop where
  | raised {bump : Bump} : Raises previous forwards backwards bump →
      (∀ w ∈ declared, (previous.increment bump).isBelow w = false) →
        Follows previous declared forwards backwards (previous.increment bump)
  | declared {bump : Bump} {w : Version} : Raises previous forwards backwards bump →
      w ∈ declared → (previous.increment bump).isBelow w →
        Follows previous declared forwards backwards w

theorem follows_next (previous : Version) (declared : Option Version) (forwards backwards : Bool) :
    Follows previous declared forwards backwards (previous.next declared forwards backwards) := by
  have hraises : Raises previous forwards backwards _ := raises_iff.2 rfl
  unfold next
  obtain ⟨w, hw, hbelow, heq⟩ | ⟨hnot, heq⟩ := latest_cases (previous.increment _) declared
  · rw [heq]
    exact .declared hraises hw hbelow
  · rw [heq]
    exact .raised hraises hnot

theorem Follows.eq_next {previous v : Version} {declared : Option Version}
    {forwards backwards : Bool} (h : Follows previous declared forwards backwards v) :
    v = previous.next declared forwards backwards := by
  unfold next
  cases h with
  | raised hraises hnot => rw [raises_iff.1 hraises, latest_of_not hnot]
  | declared hraises hmem hbelow =>
    cases hmem
    rw [raises_iff.1 hraises, latest_of_isBelow hbelow]

theorem print?_eq_some {v : Version} {text : String} :
    v.print? = some text ↔ v.isPrintable ∧ text = String.ofList v.render := by
  simp [print?, @eq_comm _ text]

theorem print?_of_parse? {s : String} {v : Version} (h : parse? s = some v) :
    v.print? = some (String.ofList v.render) :=
  print?_eq_some.2 ⟨isPrintable_of_parse? h, rfl⟩

theorem parse?_of_print? {v : Version} {text : String} (h : v.print? = some text) :
    parse? text = some v := by
  obtain ⟨hprintable, rfl⟩ := print?_eq_some.1 h
  exact parse?_render hprintable

/-- What two texts name: the version to raise, and the one that is declared if there is one. -/
structure Names (previous : String) (current : Option String) (v : Version)
    (declared : Option Version) : Prop where
  previous : parse? previous = some v
  current : current.map parse? = declared.map some

variable {previous : String} {current : Option String} {v : Version} {declared : Option Version}
  {forwards backwards : Bool}

theorem Names.isPrintable (h : Names previous current v declared) {w : Version}
    (hw : w ∈ declared) : w.isPrintable := by
  have hcurrent := h.current
  rw [hw] at hcurrent
  obtain ⟨text, _, htext⟩ := Option.map_eq_some_iff.1 hcurrent
  exact isPrintable_of_parse? htext

theorem names_or (previous : String) (current : Option String) :
    (parse? previous = none ∨ ∃ text ∈ current, parse? text = none) ∨
      ∃ v declared, Names previous current v declared := by
  cases hprevious : parse? previous with
  | none => exact .inl (.inl rfl)
  | some v =>
    cases current with
    | none => exact .inr ⟨v, none, hprevious, rfl⟩
    | some text =>
      cases htext : parse? text with
      | none => exact .inl (.inr ⟨text, rfl, htext⟩)
      | some w => exact .inr ⟨v, some w, hprevious, congrArg some htext⟩

theorem Names.decideText_eq (h : Names previous current v declared) :
    decideText previous current forwards backwards =
      decideVersions (some v) declared forwards backwards := by
  obtain ⟨hprevious, hcurrent⟩ := h
  cases current with
  | none =>
    cases declared with
    | none => simp [decideText, hprevious]
    | some w => cases hcurrent
  | some text =>
    cases declared with
    | none => cases hcurrent
    | some w =>
      have htext : parse? text = some w := Option.some.inj hcurrent
      simp [decideText, hprevious, htext]

theorem names_render (hv : v.isPrintable) (hdeclared : ∀ w ∈ declared, w.isPrintable) :
    Names (String.ofList v.render) (declared.map fun w => String.ofList w.render) v declared where
  previous := parse?_render hv
  current := by
    cases declared with
    | none => rfl
    | some w => simp [parse?_render (hdeclared w rfl)]

theorem decideText_eq {previous : Version} {current : Option Version} {forwards backwards : Bool}
    (hprevious : previous.isPrintable) (hcurrent : ∀ w ∈ current, w.isPrintable) :
    decideText (String.ofList previous.render) (current.map fun w => String.ofList w.render)
      forwards backwards = decideVersions (some previous) current forwards backwards :=
  (names_render hprevious hcurrent).decideText_eq

theorem exists_error_of_unnamed
    (h : parse? previous = none ∨ ∃ text ∈ current, parse? text = none) :
    ∃ cause, decideText previous current forwards backwards = .error cause := by
  cases hprevious : parse? previous with
  | none => exact ⟨.invalidPrevious previous, by simp [decideText, hprevious]⟩
  | some v =>
    rw [hprevious] at h
    obtain h | ⟨text, rfl, htext⟩ := h
    · cases h
    · exact ⟨.invalidCurrent text, by simp [decideText, hprevious, htext]⟩

theorem decideVersions_eq_ok {previous : Version} {current : Option Version}
    {forwards backwards : Bool} {text : String} :
    decideVersions (some previous) current forwards backwards = .ok text ↔
      (previous.next current forwards backwards).print? = some text := by
  simp only [decideVersions]
  cases (previous.next current forwards backwards).print? <;> simp

theorem decideVersions_eq_error {previous : Version} {current : Option Version}
    {forwards backwards : Bool} {cause : Undecided} :
    decideVersions (some previous) current forwards backwards = .error cause ↔
      (previous.next current forwards backwards).print? = none ∧ cause = .unprintable := by
  simp only [decideVersions]
  cases (previous.next current forwards backwards).print? <;> simp [eq_comm]

theorem exists_print?_of_decideText {previous text : String} {declared : Option String}
    {forwards backwards : Bool}
    (h : decideText previous declared forwards backwards = .ok text) :
    ∃ v : Version, v.print? = some text := by
  obtain hunnamed | ⟨v, named, hnames⟩ := names_or previous declared
  · obtain ⟨cause, herror⟩ := exists_error_of_unnamed hunnamed
    exact nomatch h.symm.trans herror
  · rw [hnames.decideText_eq, decideVersions_eq_ok] at h
    exact ⟨_, h⟩

/-! ## Progress -/

theorem latest_latest (v : Version) (declared : Option Version) :
    v.latest (some (v.latest declared)) = v.latest declared := by
  obtain ⟨w, _, hbelow, heq⟩ | ⟨_, heq⟩ := latest_cases v declared
  · rw [heq, latest_of_isBelow hbelow]
  · rw [heq]
    exact latest_of_not (by simp [isBelow_irrefl])

/-- How what is decided on stands to the version that is raised and to the declared one. It is the
declared one, and not the increment, exactly if the declared one stands above the increment. -/
structure Progresses (v : Version) (declared : Option Version) (bump : Bump) (r : Version) :
    Prop where
  above : v.isBelow r
  notBelow : ∀ w ∈ declared, r.isBelow w = false
  kept : ∀ w ∈ declared, r = w ∧ r ≠ v.increment bump ↔ (v.increment bump).isBelow w
  raised : r = v.increment bump ↔ ∀ w ∈ declared, (v.increment bump).isBelow w = false

theorem progresses_next (v : Version) (declared : Option Version) (forwards backwards : Bool) :
    v.Progresses declared (v.bumpFor forwards backwards)
      (v.next declared forwards backwards) := by
  have hfloor (w : Version) (hw : w ∈ declared) :
      (v.next declared forwards backwards).isBelow w = false := by
    cases hw
    exact not_latest_isBelow_declared _ w
  obtain ⟨u, rfl, hbelow, hnext⟩ | ⟨hnot, hnext⟩ :=
    latest_cases (v.increment (v.bumpFor forwards backwards)) declared
  · have hne : u ≠ v.increment (v.bumpFor forwards backwards) := by
      intro heq
      rw [← heq, isBelow_irrefl] at hbelow
      cases hbelow
    refine ⟨isBelow_next .., hfloor, ?_, ?_⟩
    · rintro w ⟨⟩
      exact ⟨fun _ => hbelow, fun _ => ⟨hnext, fun heq => hne (hnext.symm.trans heq)⟩⟩
    · constructor
      · intro hraised
        exact absurd (hnext.symm.trans hraised) hne
      · intro hnot
        exact absurd hbelow (by simp [hnot u rfl])
  · refine ⟨isBelow_next .., hfloor, ?_, fun _ => hnot, fun _ => hnext⟩
    intro w hw
    constructor
    · rintro ⟨_, hother⟩
      exact absurd hnext hother
    · intro hbelow
      exact absurd hbelow (by simp [hnot w hw])

theorem Names.decideText_eq_ok (h : Names previous current v declared)
    (hshort : (v.increment (v.bumpFor forwards backwards)).isPrintable) :
    (v.next declared forwards backwards).isPrintable ∧
      decideText previous current forwards backwards =
        .ok (String.ofList (v.next declared forwards backwards).render) := by
  have hprintable : (v.next declared forwards backwards).isPrintable :=
    isPrintable_latest hshort fun _ hw => h.isPrintable hw
  refine ⟨hprintable, ?_⟩
  rw [h.decideText_eq, decideVersions_eq_ok, print?_eq_some]
  exact ⟨hprintable, rfl⟩

theorem exists_error_iff :
    (∃ cause, decideText previous current forwards backwards = .error cause) ↔
      (parse? previous = none ∨ ∃ text ∈ current, parse? text = none) ∨
        ∃ v declared, Names previous current v declared ∧
          (v.next declared forwards backwards).isPrintable = false := by
  constructor
  · rintro ⟨cause, herror⟩
    refine (names_or previous current).imp_right ?_
    rintro ⟨v, declared, hnames⟩
    rw [hnames.decideText_eq, decideVersions_eq_error] at herror
    exact ⟨v, declared, hnames, by simpa [print?] using herror.1⟩
  · rintro (hunnamed | ⟨v, declared, hnames, hlong⟩)
    · exact exists_error_of_unnamed hunnamed
    · refine ⟨.unprintable, ?_⟩
      rw [hnames.decideText_eq, decideVersions_eq_error]
      exact ⟨by simp [print?, hlong], rfl⟩

/-- Nothing is decided exactly if a text names no version or what follows is too long to be written.
Whatever else is decided stands above the previous version and not below the declared one, and is
decided again where it is declared itself. -/
theorem decideText_progresses (previous : String) (current : Option String)
    (forwards backwards : Bool) :
    ((∃ cause, decideText previous current forwards backwards = .error cause) ↔
      (parse? previous = none ∨ ∃ text ∈ current, parse? text = none) ∨
        ∃ v declared, Names previous current v declared ∧
          (v.next declared forwards backwards).isPrintable = false) ∧
    ∀ v declared, Names previous current v declared →
      (v.increment (v.bumpFor forwards backwards)).isPrintable → ∃ r,
        decideText previous current forwards backwards = .ok (String.ofList r.render) ∧
        v.Progresses declared (v.bumpFor forwards backwards) r ∧
        decideText previous (some (String.ofList r.render)) forwards backwards =
          .ok (String.ofList r.render) := by
  refine ⟨exists_error_iff, ?_⟩
  intro v declared hnames hshort
  obtain ⟨hprintable, hok⟩ := hnames.decideText_eq_ok hshort
  have hagain : Names previous (some (String.ofList (v.next declared forwards backwards).render)) v
      (some (v.next declared forwards backwards)) :=
    ⟨hnames.previous, congrArg some (parse?_render hprintable)⟩
  have hstable : v.next (some (v.next declared forwards backwards)) forwards backwards =
      v.next declared forwards backwards := latest_latest _ declared
  refine ⟨_, hok, progresses_next v declared forwards backwards, ?_⟩
  rw [(hagain.decideText_eq_ok hshort).2, hstable]

/-- A declared version that is only level with the increment is dropped, build part and all. -/
theorem decideText_progresses_level :
    ∃ r : Version,
      decideText "1.2.3-1" (some "1.2.3+7") true true = .ok (String.ofList r.render) ∧
      Progresses ⟨1, 2, 3, [.number 1], []⟩ (some ⟨1, 2, 3, [], [⟨['7'], by decide⟩]⟩) .patch r ∧
      r = ⟨1, 2, 3, [], []⟩ := by
  have hcurrent : parse? "1.2.3+7" = some ⟨1, 2, 3, [], [⟨['7'], by decide⟩]⟩ :=
    parse?_of_print? (by decide)
  have hnames : Names "1.2.3-1" (some "1.2.3+7") ⟨1, 2, 3, [.number 1], []⟩
      (some ⟨1, 2, 3, [], [⟨['7'], by decide⟩]⟩) :=
    ⟨parse?_of_print? (by decide), congrArg some hcurrent⟩
  obtain ⟨r, hok, hprogresses, _⟩ :=
    (decideText_progresses "1.2.3-1" (some "1.2.3+7") true true).2 _ _ hnames (by decide)
  refine ⟨r, hok, hprogresses, hprogresses.raised.2 ?_⟩
  rintro w ⟨⟩
  decide

/-! ## Monotonicity -/

/-- How far two verdicts set revisions apart: not at all, by an extension or by a break. -/
def incompatibility (forwards backwards : Bool) : Nat :=
  if forwards then if backwards then 0 else 1 else 2

theorem Raises.isResetBelow {v w : Version} {forwards backwards forwards' backwards' : Bool}
    {bump bump' : Bump} (hv : Raises v forwards backwards bump)
    (hw : Raises w forwards' backwards' bump') (h : w.isBelow v = false)
    (hverdicts : incompatibility forwards backwards ≤ incompatibility forwards' backwards')
    {u : Version} (hu : u.IsResetBelow bump') : u.IsResetBelow bump := by
  cases hv with
  | compatible => trivial
  | extended =>
    cases hw with
    | compatible => exact absurd hverdicts (by decide)
    | extended => exact hu
    | broken _ => exact hu.2
    | brokenBelowOne _ => exact hu
  | broken hmajor =>
    cases hw with
    | compatible => exact absurd hverdicts (by simp [incompatibility])
    | extended => exact absurd hverdicts (by simp [incompatibility])
    | broken _ => exact hu
    | brokenBelowOne hzero =>
      -- A break resets fewer parts below major one, but no version ascends to there from above.
      have hle := major_le_of_not_isBelow h
      omega
  | brokenBelowOne _ =>
    cases hw with
    | compatible => exact absurd hverdicts (by simp [incompatibility])
    | extended => exact absurd hverdicts (by simp [incompatibility])
    | broken _ => exact hu.2
    | brokenBelowOne _ => exact hu

theorem not_next_isBelow_next {v w : Version} {declared declared' : Option Version}
    {forwards backwards forwards' backwards' : Bool} (h : w.isBelow v = false)
    (hdeclared : ∀ u ∈ declared, ∃ u' ∈ declared', u'.isBelow u = false)
    (hverdicts : incompatibility forwards backwards ≤ incompatibility forwards' backwards') :
    (w.next declared' forwards' backwards').isBelow
      (v.next declared forwards backwards) = false := by
  have hreset (u : Version) (hu : u.IsResetBelow (w.bumpFor forwards' backwards')) :
      u.IsResetBelow (v.bumpFor forwards backwards) :=
    (raises_iff.2 rfl).isResetBelow (raises_iff.2 rfl) h hverdicts hu
  exact not_latest_isBelow_latest (not_isBelow_increment h hreset) hdeclared

/-- What is decided ascends with both versions and with the verdicts. -/
theorem decideText_mono {previous previous' : String} {current current' : Option String}
    {v w : Version} {declared declared' : Option Version}
    {forwards backwards forwards' backwards' : Bool}
    (hnames : Names previous current v declared) (hnames' : Names previous' current' w declared')
    (hprevious : w.isBelow v = false)
    (hdeclared : ∀ u ∈ declared, ∃ u' ∈ declared', u'.isBelow u = false)
    (hverdicts : incompatibility forwards backwards ≤ incompatibility forwards' backwards')
    (hshort : (v.increment (v.bumpFor forwards backwards)).isPrintable)
    (hshort' : (w.increment (w.bumpFor forwards' backwards')).isPrintable) :
    ∃ text text' r r', decideText previous current forwards backwards = .ok text ∧
      decideText previous' current' forwards' backwards' = .ok text' ∧
      parse? text = some r ∧ parse? text' = some r' ∧ r'.isBelow r = false := by
  obtain ⟨hprintable, hok⟩ := hnames.decideText_eq_ok hshort
  obtain ⟨hprintable', hok'⟩ := hnames'.decideText_eq_ok hshort'
  exact ⟨_, _, _, _, hok, hok', parse?_render hprintable, parse?_render hprintable',
    not_next_isBelow_next hprevious hdeclared hverdicts⟩

/-- From a pre-release of major zero, extended, to one of major one, broken. -/
theorem decideText_mono_stabilized :
    Version.isBelow ⟨1, 0, 0, [.number 1], []⟩ ⟨0, 9, 1, [.number 1], []⟩ = false ∧
    incompatibility true false ≤ incompatibility false true ∧
    ∃ text text' r r', decideText "0.9.1-1" none true false = .ok text ∧
      decideText "1.0.0-1" (some "1.1.0") false true = .ok text' ∧
      parse? text = some r ∧ parse? text' = some r' ∧ r'.isBelow r = false := by
  have hbelow : Version.isBelow ⟨1, 0, 0, [.number 1], []⟩ ⟨0, 9, 1, [.number 1], []⟩ = false := by
    decide
  have hverdicts : incompatibility true false ≤ incompatibility false true := by decide
  have hnames : Names "0.9.1-1" none ⟨0, 9, 1, [.number 1], []⟩ none :=
    ⟨parse?_of_print? (by decide), rfl⟩
  have hcurrent : parse? "1.1.0" = some ⟨1, 1, 0, [], []⟩ := parse?_of_print? (by decide)
  have hnames' : Names "1.0.0-1" (some "1.1.0") ⟨1, 0, 0, [.number 1], []⟩
      (some ⟨1, 1, 0, [], []⟩) := ⟨parse?_of_print? (by decide), congrArg some hcurrent⟩
  exact ⟨hbelow, hverdicts, decideText_mono hnames hnames' hbelow (by simp) hverdicts (by decide)
    (by decide)⟩

end NextRelease.Version
