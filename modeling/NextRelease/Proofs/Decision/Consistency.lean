import NextRelease.Proofs.Decision.Halting
import NextRelease.Proofs.Decision.Stages
import NextRelease.Proofs.Json.Numbers

/-! The version of a previous reference. Where both references stand for one commit it is read from
the history, and else from the package, once that was renamed, installed, built and packed. Both
ways come to what the manifest tells, or both report that it tells none, unless a long numeral or
deep nesting keeps it from being read. -/

namespace NextRelease

/-! ## Readings of a manifest -/

namespace Manifest

def Renamed (original text : String) : Prop :=
  text = original ∨
    (∃ (depth : Nat) (fields : Fields), Json.read original.toList depth = .ok (.obj fields)) ∧
      ∀ (depth : Nat) (fields : Fields), Json.read original.toList depth = .ok (.obj fields) →
        ∃ fields' : Fields, Json.read text.toList depth = .ok (.obj fields') ∧
          ∀ key ≠ Text.ofString "name", fields'.get? key = fields.get? key

inductive Taken : Except Json.Refusal Json → Except Halt Fields → Prop
  | object {found fields : Fields} :
      (∀ key ≠ Text.ofString "name", fields.get? key = found.get? key) →
        Taken (.ok (.obj found)) (.ok fields)
  | other {value : Json} {problem : ManifestProblem} : (∀ found, value ≠ .obj found) →
      Taken (.ok value) (.error (.failure (.malformedManifest problem)))
  | malformed {fault : Json.Fault} {rest : List Char} {problem : ManifestProblem} :
      Taken (.error (.malformed fault rest)) (.error (.failure (.malformedManifest problem)))
  | numeral {count : Nat} :
      Taken (.error (.tooManyDigits count)) (.error (.fault (.numeralTooLong count)))

theorem taken_parse {text source : String} {depth : Nat}
    (h : Json.read text.toList depth ≠ .error .tooDeep) :
    Taken (Json.read text.toList depth) (parse text source depth) := by
  unfold parse
  match Json.read text.toList depth, h with
  | .ok (.obj fields), _ => exact .object fun _ _ => rfl
  | .ok .null, _ | .ok (.bool _), _ | .ok (.int _), _ | .ok (.float _), _ | .ok (.str _), _
  | .ok (.arr _), _ => exact .other nofun
  | .error (.malformed _ _), _ => exact .malformed
  | .error (.tooManyDigits _), _ => exact .numeral
  | .error .tooDeep, h => exact absurd rfl h

theorem parse_tooDeep {text source : String} {depth : Nat}
    (h : Json.read text.toList depth = .error .tooDeep) :
    parse text source depth = .error (.fault .nestingTooDeep) := by
  simp only [parse, h]

def ReadAs (original : String) (least : Nat) (manifest : Except Halt Fields) : Prop :=
  (∃ depth, Json.read original.toList depth ≠ .error .tooDeep ∧
      Taken (Json.read original.toList depth) manifest) ∨
    Json.read original.toList least = .error .tooDeep ∧ manifest = .error (.fault .nestingTooDeep)

theorem readAs_parse {original text source : String} {least depth : Nat}
    (h : Renamed original text) (hle : least ≤ depth) :
    ReadAs original least (parse text source depth) := by
  obtain rfl | ⟨⟨enough, found, hfound⟩, hkept⟩ := h
  · by_cases hdeep : Json.read text.toList depth = .error .tooDeep
    · exact .inr ⟨Json.read_tooDeep hle hdeep, parse_tooDeep hdeep⟩
    · exact .inl ⟨depth, hdeep, taken_parse hdeep⟩
  have hshallow := Json.ne_tooDeep hfound
  -- Both texts are objects at some depth, so nothing but the depth can keep either from being read.
  by_cases hdeep : Json.read text.toList depth = .error .tooDeep
  · refine .inr ⟨Json.read_tooDeep hle ?_, parse_tooDeep hdeep⟩
    by_contra hother
    obtain ⟨fields, hfields, _⟩ :=
      hkept depth found ((Json.read_unique hother hshallow).trans hfound)
    exact nomatch hfields.symm.trans hdeep
  · obtain ⟨fields, hfields, hsame⟩ := hkept enough found hfound
    have hread : Json.read text.toList depth = .ok (.obj fields) := by
      rw [← hfields]
      exact Json.read_unique hdeep (Json.ne_tooDeep hfields)
    refine .inl ⟨enough, hshallow, ?_⟩
    rw [hfound, parse, hread]
    exact .object hsame

theorem renamed_of_read {original text : String} {fields fields' : Fields}
    (h : Json.read original.toList 1 = .ok (.obj fields))
    (h' : Json.read text.toList 1 = .ok (.obj fields'))
    (hsame : ∀ key ≠ Text.ofString "name", fields'.get? key = fields.get? key) :
    Renamed original text := by
  refine .inr ⟨⟨1, fields, h⟩, fun depth found hfound => ?_⟩
  have hle : 1 ≤ depth := by
    cases Json.fits_of_read hfound
    omega
  obtain hdeep | heq := Json.deepens_read original.toList hle
  · cases h.symm.trans hdeep
  obtain hdeep' | heq' := Json.deepens_read text.toList hle
  · cases h'.symm.trans hdeep'
  cases h.symm.trans (heq.symm.trans hfound)
  exact ⟨fields', heq'.trans h', hsame⟩

theorem eq_of_readAs {original : String} {enough least count : Nat} {found : Except Halt Fields}
    (h : Json.read original.toList enough = .error (.tooManyDigits count)) (hle : enough ≤ least)
    (hread : ReadAs original least found) : found = .error (.fault (.numeralTooLong count)) := by
  have hshallow : Json.read original.toList enough ≠ .error .tooDeep := by
    rw [h]
    exact nofun
  obtain ⟨depth, hdepth, htaken⟩ | ⟨hdeep, _⟩ := hread
  · rw [Json.read_unique hdepth hshallow, h] at htaken
    cases htaken
    rfl
  · exact absurd (Json.read_tooDeep hle hdeep) hshallow

end Manifest

namespace Decision

def versionIn (manifest : Except Halt Fields) (source : String) (reference : Reference) :
    Except Halt String := do
  match Manifest.declaredVersion (← manifest) source with
  | .error cause => .error (.failure cause)
  | .ok declared => versionOf declared reference

@[simp]
theorem versionIn_error {cause : Halt} {source : String} {reference : Reference} :
    versionIn (.error cause) source reference = .error cause := rfl

theorem versionIn_ok {fields : Fields} {source : String} {reference : Reference} :
    versionIn (.ok fields) source reference =
      match Manifest.declaredVersion fields source with
      | .error cause => .error (.failure cause)
      | .ok declared => versionOf declared reference := rfl

/-- The version of a reference, by what its package comes to. -/
def versionBuilt (built : Except Halt Artifact) (reference : Reference) : Except Halt String := do
  versionOf (← built).version reference

inductive States (fields : Fields) (reference : Reference) (version : Version) : Prop
  | declared : Manifest.Declares fields (some version) → States fields reference version
  | named : Manifest.Declares fields none → Version.parse? reference.name = some version →
      States fields reference version

def Tells (manifest : String) (reference : Reference) (version : Version) : Prop :=
  ∃ (depth : Nat) (fields : Fields),
    Json.read manifest.toList depth = .ok (.obj fields) ∧ States fields reference version

/-- How the versions go together to which the two ways come. Both are what the manifest tells, or
both ways report that it tells none; but a numeral that is too long stops both of them, and
containers that are nested too deep for the way with less room may stop one. -/
inductive Agrees (manifest : String) (reference : Reference) (least : Nat) :
    Except Halt String → Except Halt String → Prop
  | same {version : Version} : Tells manifest reference version →
      Agrees manifest reference least (.ok (String.ofList version.render))
        (.ok (String.ofList version.render))
  | malformed {problem problem' : ManifestProblem} :
      (∀ version, ¬Tells manifest reference version) →
        Agrees manifest reference least (.error (.failure (.malformedManifest problem)))
          (.error (.failure (.malformedManifest problem')))
  | numeral {depth count : Nat} : Json.read manifest.toList depth = .error (.tooManyDigits count) →
      Agrees manifest reference least (.error (.fault (.numeralTooLong count)))
        (.error (.fault (.numeralTooLong count)))
  | nested {kept used : Except Halt String} : Json.read manifest.toList least = .error .tooDeep →
      kept = .error (.fault .nestingTooDeep) ∨ used = .error (.fault .nestingTooDeep) →
        Agrees manifest reference least kept used

theorem version_ne_name : Text.ofString "version" ≠ Text.ofString "name" := by decide

theorem declares_congr {fields fields' : Fields} {version : Option Version}
    (h : fields'.get? (Text.ofString "version") = fields.get? (Text.ofString "version"))
    (hdeclares : Manifest.Declares fields version) : Manifest.Declares fields' version := by
  cases hdeclares with
  | absent hget => exact .absent (h.trans hget)
  | null hget => exact .null (h.trans hget)
  | text hget hs hv => exact .text (h.trans hget) hs hv

section

variable {manifest : String} {least : Nat} {found fields fields' : Fields} {reference : Reference}

theorem versionIn_of_states {version : Version} (source : String)
    (h : fields.get? (Text.ofString "version") = found.get? (Text.ofString "version"))
    (hstates : States found reference version) :
    versionIn (.ok fields) source reference = .ok (String.ofList version.render) := by
  cases hstates with
  | declared hdeclares =>
    rw [versionIn_ok, Manifest.declaredVersion_of_declares source (declares_congr h hdeclares)]
    rfl
  | named hdeclares hname =>
    rw [versionIn_ok, Manifest.declaredVersion_of_declares source (declares_congr h hdeclares)]
    simp only [Option.map_none, versionOf, tagVersion, hname]

theorem versionIn_of_not_states (source : String)
    (h : fields.get? (Text.ofString "version") = found.get? (Text.ofString "version"))
    (hstates : ∀ version, ¬States found reference version) :
    ∃ problem, versionIn (.ok fields) source reference =
      .error (.failure (.malformedManifest problem)) := by
  rw [versionIn_ok]
  cases hdeclared : Manifest.declaredVersion fields source with
  | error cause =>
    obtain ⟨problem, rfl⟩ := Manifest.declaredVersion_error hdeclared
    exact ⟨problem, rfl⟩
  | ok declared =>
    obtain ⟨version, hdeclares, rfl⟩ := Manifest.declares_of_declaredVersion hdeclared
    cases version with
    | some version => exact absurd (.declared (declares_congr h.symm hdeclares)) (hstates version)
    | none =>
      cases hname : Version.parse? reference.name with
      | some version =>
        exact absurd (.named (declares_congr h.symm hdeclares) hname) (hstates version)
      | none =>
        refine ⟨.undeclared reference.name, ?_⟩
        simp only [Option.map_none, versionOf, tagVersion, hname]

theorem not_tells (reference : Reference) {depth : Nat}
    (h : Json.read manifest.toList depth ≠ .error .tooDeep)
    (hstates : ∀ fields : Fields, Json.read manifest.toList depth = .ok (.obj fields) →
      ∀ version, ¬States fields reference version) (version : Version) :
    ¬Tells manifest reference version := by
  rintro ⟨enough, fields, hread, htold⟩
  have hunique := Json.read_unique h (Json.ne_tooDeep hread)
  exact hstates fields (hunique.trans hread) version htold

theorem agrees_versionIn_fields {depth : Nat} {source source' : String}
    (hread : Json.read manifest.toList depth = .ok (.obj found))
    (h : fields.get? (Text.ofString "version") = found.get? (Text.ofString "version"))
    (h' : fields'.get? (Text.ofString "version") = found.get? (Text.ofString "version")) :
    Agrees manifest reference least (versionIn (.ok fields) source reference)
      (versionIn (.ok fields') source' reference) := by
  by_cases hstates : ∃ version, States found reference version
  · obtain ⟨version, hstates⟩ := hstates
    rw [versionIn_of_states source h hstates, versionIn_of_states source' h' hstates]
    exact .same ⟨depth, found, hread, hstates⟩
  · rw [not_exists] at hstates
    obtain ⟨problem, hproblem⟩ := versionIn_of_not_states source h hstates
    obtain ⟨problem', hproblem'⟩ := versionIn_of_not_states source' h' hstates
    rw [hproblem, hproblem']
    refine .malformed (not_tells reference (Json.ne_tooDeep hread) fun fields hfields => ?_)
    cases hread.symm.trans hfields
    exact hstates

theorem agrees_versionIn {kept used : Except Halt Fields} {source source' : String}
    (h : Manifest.ReadAs manifest least kept) (h' : Manifest.ReadAs manifest least used) :
    Agrees manifest reference least (versionIn kept source reference)
      (versionIn used source' reference) := by
  obtain ⟨depth, hshallow, htaken⟩ | ⟨hdeep, rfl⟩ := h
  · obtain ⟨depth', hshallow', htaken'⟩ | ⟨hdeep, rfl⟩ := h'
    · rw [Json.read_unique hshallow' hshallow] at htaken'
      have hnone := not_tells reference hshallow
      generalize hread : Json.read manifest.toList depth = reading at htaken htaken' hnone
      cases htaken with
      | object hsame =>
        cases htaken' with
        | object hsame' =>
          exact agrees_versionIn_fields hread (hsame _ version_ne_name) (hsame' _ version_ne_name)
        | other hother => exact absurd rfl (hother _)
      | other hother =>
        cases htaken' with
        | object => exact absurd rfl (hother _)
        | other => exact .malformed (hnone fun fields heq => absurd (Except.ok.inj heq) (hother _))
      | malformed =>
        cases htaken' with
        | malformed => exact .malformed (hnone nofun)
      | numeral =>
        cases htaken' with
        | numeral => exact .numeral hread
    · exact .nested hdeep (.inr rfl)
  · exact .nested hdeep (.inl rfl)

end

end Decision

/-! ## The two ways -/

def Exchange.Shows (repo : Repository) (reference : Reference) (path text : String)
    (exchange : Exchange) : Prop :=
  ∀ reply,
    exchange = ⟨.run ⟨["git", "show", reference.commit ++ ":" ++ path], repo.rootPath⟩, reply⟩ →
      ∃ result, reply = .ok result ∧ result.ok = true ∧ result.out = text

def Exchange.Serves (path : Path) (manifest : String) : Exchange → Prop
  | ⟨.run _, reply⟩ => ∃ result, reply = .ok result ∧ result.ok = true
  | ⟨.status asked, answer⟩ =>
    (asked = path → answer = .ok .file) ∧ ∀ cause, answer = .error cause → cause.isAbsence = true
  | ⟨.read asked, answer⟩ => ∃ bytes, answer = .ok bytes ∧
      (asked = path → ∃ text, Text.decode? bytes = some text ∧ Manifest.Renamed manifest text)
  | ⟨.resolve _ _, answer⟩ => ∃ place, answer = .ok place
  | ⟨.write _ _, answer⟩ | ⟨.makeDirectory _, answer⟩ | ⟨.move _ _, answer⟩ => answer = .ok ()
  | ⟨.note _ _, _⟩ | ⟨.removeTree _, _⟩ => True

section

variable {path : Path} {manifest : String} {α : Type} {ends : Except Halt α → Prop}

namespace Script

theorem comesTo_stage {argv : List String} {cwd : Path} {f : CommandResult → Script α}
    (h : ∀ result, result.ok = true → (f result).ComesTo (Exchange.Serves path manifest) ends) :
    (run argv cwd >>= f).ComesTo (Exchange.Serves path manifest) ends := by
  refine comesTo_bind (comesTo_run fun reply hreply => ?_)
  obtain ⟨result, rfl, hok⟩ := hreply
  exact h result hok

theorem comesTo_isFile {asked : Path} {ends : Except Halt Bool → Prop}
    (h : ∀ found, (asked = path → found = true) → ends (.ok found)) :
    (isFile asked).ComesTo (Exchange.Serves path manifest) ends := by
  rintro answer ⟨hfile, habsent⟩
  cases answer with
  | ok kind =>
    refine h _ fun heq => ?_
    cases hfile heq
    rfl
  | error cause =>
    simp only [habsent cause rfl, if_true]
    exact h false fun heq => nomatch hfile heq

end Script

theorem Manifest.comesTo_load {depth least : Nat} (hle : least ≤ depth)
    {ends : Except Halt Fields → Prop} (h : ∀ found, ReadAs manifest least found → ends found) :
    (load path depth).ComesTo (Exchange.Serves path manifest) ends := by
  refine Script.comesTo_bind (Script.comesTo_isFile fun found hfound => ?_)
  obtain rfl := hfound rfl
  refine Script.comesTo_bind (Script.comesTo_bind (Script.comesTo_files fun answer hanswer => ?_))
  obtain ⟨bytes, rfl, hheld⟩ := hanswer
  obtain ⟨text, htext, hrenamed⟩ := hheld rfl
  refine ⟨bytes, rfl, ?_⟩
  simp only [Script.thenComesTo, htext]
  exact Script.comesTo_ofExcept (h _ (readAs_parse hrenamed hle))

theorem Dialect.comesTo_detect {directory : Path} {ends : Except Halt Dialect → Prop}
    (h : ∀ dialect, ends (.ok dialect)) :
    (detect directory).ComesTo (Exchange.Serves path manifest) ends := by
  unfold detect
  induction lockFiles with
  | nil => exact h npm
  | cons lockFile rest ih =>
    refine Script.comesTo_bind (Script.comesTo_isFile fun found _ => ?_)
    cases found with
    | true => exact h lockFile.2
    | false => exact ih

namespace Packaging

variable {directory : Path} {dialect : Dialect} {reference : String}
  {ends : Except Halt Unit → Prop}

theorem comesTo_clone {repo : Repository} {target : Path} (h : ends (.ok ())) :
    (repo.clone reference target).ComesTo (Exchange.Serves path manifest) ends := by
  refine Script.comesTo_bind (Script.comesTo_info (Script.comesTo_stage fun result hok => ?_))
  rw [if_pos hok]
  exact Script.comesTo_info h

theorem comesTo_rename {name : String} (h : ends (.ok ())) :
    (rename directory name dialect reference).ComesTo (Exchange.Serves path manifest) ends := by
  refine Script.comesTo_bind (Script.comesTo_info (Script.comesTo_stage fun result hok => ?_))
  rw [if_pos hok]
  exact h

theorem comesTo_install {production : Bool} (h : ends (.ok ())) :
    (install directory dialect reference production).ComesTo (Exchange.Serves path manifest)
      ends := by
  refine Script.comesTo_bind (Script.comesTo_info (Script.comesTo_stage fun result hok => ?_))
  rw [if_pos hok]
  exact Script.comesTo_info h

theorem comesTo_runBuild {depth least : Nat} (hle : least ≤ depth) (h : ends (.ok ()))
    (herror : ∀ cause, Manifest.ReadAs manifest least (.error cause) → ends (.error cause))
    (hpath : path = directory.child Manifest.fileName) :
    (runBuild directory dialect reference depth).ComesTo (Exchange.Serves path manifest) ends := by
  subst hpath
  refine Script.comesTo_bind (Manifest.comesTo_load hle fun found hfound => ?_)
  cases found with
  | error cause => exact herror cause hfound
  | ok fields =>
    simp only [Script.thenComesTo]
    split
    · refine Script.comesTo_bind (Script.comesTo_info (Script.comesTo_stage fun result hok => ?_))
      rw [if_pos hok]
      exact Script.comesTo_info h
    · exact Script.comesTo_info h

theorem comesTo_pack {destination : Path} {depth : Nat} {ends : Except Halt Path → Prop}
    (h : ends (.ok destination))
    (hmissing : ∀ detail, ends (.error (.failure (.stage .pack reference detail)))) :
    (pack directory destination dialect reference depth).ComesTo (Exchange.Serves path manifest)
      ends := by
  refine Script.comesTo_bind (Script.comesTo_info (Script.comesTo_stage fun result hok => ?_))
  simp only [hok, Bool.not_true, Bool.false_eq_true, if_false]
  split
  · exact hmissing _
  · refine Script.comesTo_bind (Script.comesTo_files fun answer hanswer => ?_)
    obtain ⟨place, rfl⟩ := hanswer
    refine ⟨place, rfl, Script.comesTo_bind (Script.comesTo_isFile fun found _ => ?_)⟩
    cases found with
    | false => exact hmissing _
    | true =>
      refine Script.comesTo_bind (Script.comesTo_files fun answer hanswer => ?_)
      obtain rfl := hanswer
      exact ⟨(), rfl, Script.comesTo_bind (Script.comesTo_info h)⟩

def BuiltAs (original : String) (least : Nat) (reference : Reference)
    (built : Except Halt Artifact) : Prop :=
  (∃ fields, Manifest.ReadAs original least (.ok fields)) ∧
      (∃ detail, built = .error (.failure (.stage .pack reference.name detail))) ∨
    ∃ found source, Manifest.ReadAs original least found ∧
      Decision.versionBuilt built reference = Decision.versionIn found source reference

theorem builtAs_error {least : Nat} {reference : Reference} {cause : Halt}
    (h : Manifest.ReadAs manifest least (.error cause)) :
    BuiltAs manifest least reference (.error cause) := .inr ⟨.error cause, "", h, rfl⟩

theorem comesTo_build {packaging : Packaging} {reference : Reference} {role : String}
    {scratch : Path} {least : Nat} (hle : least ≤ packaging.depth - 1)
    (hpath : path = (packaging.packageDirectory (scratch.child role)).child Manifest.fileName) :
    (packaging.build reference role scratch).ComesTo (Exchange.Serves path manifest)
      (BuiltAs manifest least reference) := by
  subst hpath
  have hwhole : least ≤ packaging.depth := hle.trans (Nat.sub_le _ _)
  refine Script.comesTo_bind (Script.comesTo_files fun answer hanswer => ⟨(), hanswer, ?_⟩)
  refine Script.comesTo_bind (comesTo_clone ?_)
  refine Script.comesTo_bind (Manifest.comesTo_load hwhole fun found hfound => ?_)
  cases found with
  | error cause => exact builtAs_error hfound
  | ok fields => ?_
  refine Script.comesTo_bind (Dialect.comesTo_detect fun dialect => ?_)
  refine Script.comesTo_bind (Script.comesTo_info ?_)
  refine Script.comesTo_bind (comesTo_rename ?_)
  refine Script.comesTo_bind (comesTo_install ?_)
  refine Script.comesTo_bind (comesTo_runBuild hle ?_ (fun cause => builtAs_error) rfl)
  refine Script.comesTo_bind (comesTo_pack ?_ fun detail => .inl ⟨⟨fields, hfound⟩, detail, rfl⟩)
  refine Script.comesTo_bind (Manifest.comesTo_load hwhole fun found hfound => ?_)
  cases found with
  | error cause => exact builtAs_error hfound
  | ok fields =>
    simp only [Script.thenComesTo]
    generalize Manifest.fileName ++ " at " ++ reference.name = source
    cases hdeclared : Manifest.declaredVersion fields source with
    | error cause =>
      refine .inr ⟨.ok fields, source, hfound, ?_⟩
      rw [Decision.versionIn_ok, hdeclared]
      rfl
    | ok declared =>
      refine .inr ⟨.ok fields, source, hfound, ?_⟩
      rw [Decision.versionIn_ok, hdeclared]
      rfl

end Packaging

namespace Decision

theorem comesTo_versionAt {s : Subject} {reference : Reference} :
    (versionAt s reference).ComesTo (Exchange.Shows s.repo reference
      (toString (s.packagePath.child Manifest.fileName)) manifest) fun kept =>
        ∃ source, kept = versionIn (Manifest.parse manifest source s.depth) source reference := by
  refine Script.comesTo_bind (Script.comesTo_bind (Script.comesTo_run fun reply hreply => ?_))
  obtain ⟨result, rfl, hok, rfl⟩ := hreply reply rfl
  simp only [Script.thenComesTo, hok, if_true]
  refine Script.comesTo_bind (Script.comesTo_ofExcept ?_)
  generalize toString (s.packagePath.child Manifest.fileName) ++ " at " ++ reference.name = source
  cases hparse : Manifest.parse result.out source s.depth with
  | error cause => exact ⟨source, by rw [hparse, versionIn_error]⟩
  | ok fields =>
    simp only [Script.thenComesTo]
    cases hdeclared : Manifest.declaredVersion fields source with
    | error cause => exact ⟨source, by rw [hparse, versionIn_ok, hdeclared]⟩
    | ok declared =>
      exact Script.comesTo_ofExcept ⟨source, by rw [hparse, versionIn_ok, hdeclared]⟩

/-- Both ways to the version of a reference, gone through surroundings that hold one manifest: the
history shows it, and the clone has it, where commands succeed and change its name at most. -/
structure BothRead (manifest : String) (s : Subject) (reference : Reference) (scratch : Path)
    (kept : Except Halt String) (built : Except Halt Artifact) : Prop where
  shown : ∃ exchanges, (versionAt s reference).Answered exchanges kept ∧
    ∀ exchange ∈ exchanges, exchange.Shows s.repo reference
      (toString (s.packagePath.child Manifest.fileName)) manifest
  packed : ∃ exchanges,
    (s.packaging.build reference Revision.previous.name scratch).Answered exchanges built ∧
      ∀ exchange ∈ exchanges, exchange.Serves ((s.packaging.packageDirectory
        (scratch.child Revision.previous.name)).child Manifest.fileName) manifest
  found : ∀ detail, built ≠ .error (.failure (.stage .pack reference.name detail))

section

variable {s : Subject} {reference : Reference} {scratch : Path} {kept : Except Halt String}
  {built : Except Halt Artifact}

theorem builtAs_of_answered {exchanges : List Exchange}
    (h : (s.packaging.build reference Revision.previous.name scratch).Answered exchanges built)
    (hserves : ∀ exchange ∈ exchanges, exchange.Serves ((s.packaging.packageDirectory
      (scratch.child Revision.previous.name)).child Manifest.fileName) manifest) :
    Packaging.BuiltAs manifest (min s.depth (Subject.strandDepth - 1)) reference built :=
  (Packaging.comesTo_build (Nat.min_le_right s.depth _) rfl).of_answered h hserves

theorem BothRead.readAs (h : BothRead manifest s reference scratch kept built) :
    ∃ found found' source source',
      Manifest.ReadAs manifest (min s.depth (Subject.strandDepth - 1)) found ∧
      Manifest.ReadAs manifest (min s.depth (Subject.strandDepth - 1)) found' ∧
      kept = versionIn found source reference ∧
      versionBuilt built reference = versionIn found' source' reference := by
  obtain ⟨shown, hkept, hshown⟩ := h.shown
  obtain ⟨packed, hbuilt, hpacked⟩ := h.packed
  obtain ⟨source, rfl⟩ := comesTo_versionAt.of_answered hkept hshown
  obtain ⟨_, detail, hdetail⟩ | ⟨found, source', hread, hversion⟩ :=
    builtAs_of_answered hbuilt hpacked
  · exact absurd hdetail (h.found detail)
  · exact ⟨_, found, source, source', Manifest.readAs_parse (.inl rfl) (Nat.min_le_left _ _), hread,
      rfl, hversion⟩

end

theorem keep_answered {host : Host} {lane : Lane} {w w' : World} {previous current : Reference}
    {s : Subject} {d : Decision} (h : (keep s previous current).exec host lane w = (.ok d, w')) :
    ∃ exchanges, (versionAt s previous).Answered exchanges (.ok d.version) ∧
      ∀ exchange ∈ exchanges, exchange.IsOf host lane := by
  obtain ⟨version, v, hversion, hrest⟩ := Script.exec_bind_ok.1 h
  obtain ⟨_, _, _, hend⟩ := Script.exec_bind_ok.1 hrest
  obtain ⟨record, _, hcourse⟩ := (versionAt s previous).exec_course host lane w
  rw [hversion] at hcourse
  cases hend
  exact hcourse.answered

theorem compute_built {host : Host} {w w' : World} {previous current : Reference} {s : Subject}
    {d : Decision} (h : compute s previous current host w = (.ok d, w')) :
    ∃ scratch exchanges built before declared, ∃ compatibility : Compatibility,
      (s.packaging.build previous Revision.previous.name scratch).Answered exchanges built ∧
      (∀ exchange ∈ exchanges, exchange.IsOf host .previous) ∧
      versionBuilt built previous = .ok before ∧
      Version.decideText before declared compatibility.forwards compatibility.backwards =
        .ok d.version := by
  obtain ⟨scratch, _, _, old, new, compatibility, before, _, hexamine, hbefore, hversion, _⟩ :=
    compute_ok h
  obtain ⟨_, hpack, _⟩ := examine_ok hexamine
  obtain ⟨_, _, _, hold, _⟩ := Run.both_ok (by decide) hpack
  obtain ⟨exchanges, hanswered, hof⟩ := hold.answered
  exact ⟨scratch, exchanges, .ok old, before, new.version, compatibility, hanswered, hof, hbefore,
    hversion⟩

end Decision

end

/-! ## Constant surroundings -/

def answersWith (shown held : String) : {Answer : Type} → Request Answer → Answer
  | _, .run command =>
    .ok { code := 0, out := if command.argv.take 2 = ["git", "show"] then shown else "archive.tgz" }
  | _, .note _ _ => ()
  | _, .status _ => .ok .file
  | _, .resolve path _ => .ok path.names
  | _, .read _ => .ok held.toUTF8
  | _, .write _ _ | _, .makeDirectory _ | _, .move _ _ => .ok ()
  | _, .removeTree _ => .gone

namespace Exchange

variable {shown held : String} {exchange : Exchange}

theorem shows_of_answersWith (h : exchange.answer = answersWith shown held exchange.request)
    (repo : Repository) (reference : Reference) (path : String) :
    exchange.Shows repo reference path shown := by
  rintro reply rfl
  exact ⟨_, h, rfl, rfl⟩

theorem serves_of_answersWith (h : exchange.answer = answersWith shown held exchange.request)
    (hheld : '\r' ∉ held.toList) (hrenamed : Manifest.Renamed shown held) (path : Path) :
    exchange.Serves path shown := by
  obtain ⟨request, answer⟩ := exchange
  change answer = answersWith shown held request at h
  subst h
  cases request with
  | run command => exact ⟨_, rfl, rfl⟩
  | status asked => exact ⟨fun _ => rfl, nofun⟩
  | read asked => exact ⟨_, rfl, fun _ => ⟨held, Text.decode?_toUTF8 hheld, hrenamed⟩⟩
  | resolve asked depth => exact ⟨_, rfl⟩
  | write asked content => rfl
  | makeDirectory asked => rfl
  | move source destination => rfl
  | note level text => trivial
  | removeTree asked => trivial

end Exchange

namespace Decision

theorem bothRead_under (s : Subject) (reference : Reference) (scratch : Path)
    {manifest held : String} (hheld : '\r' ∉ held.toList)
    (hrenamed : Manifest.Renamed manifest held)
    (hfound : ∀ detail, (s.packaging.build reference Revision.previous.name scratch).under
      (answersWith manifest held) ≠ .error (.failure (.stage .pack reference.name detail))) :
    BothRead manifest s reference scratch
      ((versionAt s reference).under (answersWith manifest held))
      ((s.packaging.build reference Revision.previous.name scratch).under
        (answersWith manifest held)) where
  shown := by
    obtain ⟨exchanges, hanswered, hsame⟩ :=
      Script.answered_under (answersWith manifest held) (versionAt s reference)
    exact ⟨exchanges, hanswered, fun _ hmem => Exchange.shows_of_answersWith (hsame _ hmem) _ _ _⟩
  packed := by
    obtain ⟨exchanges, hanswered, hsame⟩ := Script.answered_under (answersWith manifest held)
      (s.packaging.build reference Revision.previous.name scratch)
    exact ⟨exchanges, hanswered, fun _ hmem =>
      Exchange.serves_of_answersWith (hsame _ hmem) hheld hrenamed _⟩
  found := hfound

/-! ## Agreement -/

/-- The version that is kept where both references stand for one commit is the one that is raised
where they do not, or neither way finds one in the manifest; but what cannot be read stops either
way without a word on the manifest. -/
theorem agrees_of_bothRead {manifest : String} {s : Subject} {reference : Reference}
    {scratch : Path} {kept : Except Halt String} {built : Except Halt Artifact}
    (h : BothRead manifest s reference scratch kept built) :
    Agrees manifest reference (min s.depth (Subject.strandDepth - 1)) kept
      (versionBuilt built reference) := by
  obtain ⟨found, found', source, source', hread, hread', rfl, hbuilt⟩ := h.readAs
  rw [hbuilt]
  exact agrees_versionIn hread hread'

/-- A package in the root directory of a repository. -/
def plainSubject : Subject := ⟨⟨["repo"]⟩, ⟨0, []⟩, {}, Manifest.depthLimit - 1⟩

def firstTag : Reference := ⟨"v1.1.0", .tag, "aaaaaaa"⟩

def plainBuilt (manifest held : String) : Except Halt Artifact :=
  (plainSubject.packaging.build firstTag Revision.previous.name ⟨1, ["tmp"]⟩).under
    (answersWith manifest held)

def nameManifest (name : List Char) : List Char :=
  '\x7b' :: '\x22' :: ("name".toList ++ '\x22' :: ':' :: '\x22' :: (name ++ ['\x22', '\x7d']))

theorem renamed_nameManifest {name name' : List Char} (h : ∀ c ∈ name, Json.IsPlain c)
    (h' : ∀ c ∈ name', Json.IsPlain c) :
    Manifest.Renamed (String.ofList (nameManifest name)) (String.ofList (nameManifest name')) := by
  have hread {name : List Char} (h : ∀ c ∈ name, Json.IsPlain c) :
      Json.read (String.ofList (nameManifest name)).toList 1 =
        .ok (.obj [(Text.ofString "name", .str (Text.ofChars name))]) := by
    rw [String.toList_ofList]
    exact Json.read_field 0 (by simp [Json.IsPlain]) h
  refine Manifest.renamed_of_read (hread h) (hread h') fun key hother => ?_
  simp only [Fields.get?, if_neg (Ne.symm hother)]

/-- Under another name of the package the version of its tag is raised, as it is kept. -/
theorem agrees_of_bothRead_renamed :
    ∃ manifest kept built, BothRead manifest plainSubject firstTag ⟨1, ["tmp"]⟩ kept built ∧
      kept.toOption = some "1.1.0" ∧ (versionBuilt built firstTag).toOption = some "1.1.0" ∧
      Agrees manifest firstTag (min plainSubject.depth (Subject.strandDepth - 1)) kept
        (versionBuilt built firstTag) := by
  let manifest := String.ofList (nameManifest "lib".toList)
  let held := String.ofList (nameManifest "liskov-semver-previous".toList)
  have hheld : '\r' ∉ held.toList := by
    rw [String.toList_ofList]
    decide
  have hrenamed : Manifest.Renamed manifest held :=
    renamed_nameManifest (by simp [Json.IsPlain]) (by simp [Json.IsPlain])
  have hraised : (versionBuilt (plainBuilt manifest held) firstTag).toOption = some "1.1.0" := by
    decide +kernel
  have hfound (detail : String) :
      plainBuilt manifest held ≠ .error (.failure (.stage .pack firstTag.name detail)) := by
    intro hdetail
    rw [hdetail] at hraised
    cases hraised
  have hboth := bothRead_under plainSubject firstTag ⟨1, ["tmp"]⟩ hheld hrenamed hfound
  exact ⟨manifest, _, _, hboth, by decide +kernel, hraised, agrees_of_bothRead hboth⟩

/-- A manifest with one digit more than numerals may have. -/
def longNumeral : List Char :=
  '\x7b' :: '\x22' :: (['n'] ++ '\x22' :: ':' :: '1' ::
    (List.replicate Text.digitLimit '1' ++ ['\x7d']))

theorem read_longNumeral (depth : Nat) :
    Json.read longNumeral (depth + 1) = .error (.tooManyDigits 4301) := by
  have hdigits : ('1' :: List.replicate Text.digitLimit '1').all Char.isDigit = true := by
    simp [List.all_replicate]
  have hkey : ∀ c ∈ ['n'], Json.IsPlain c := by simp [Json.IsPlain]
  have h := Json.read_field_tooManyDigits depth hkey hdigits (by decide) (by simp)
  rwa [List.length_cons, List.length_replicate] at h

/-- Too long a numeral stops both ways, and neither tells that the manifest is malformed. -/
theorem unreported_of_bothRead :
    ∃ kept built, BothRead (String.ofList longNumeral) plainSubject firstTag ⟨1, ["tmp"]⟩ kept
        built ∧
      kept = .error (.fault (.numeralTooLong 4301)) ∧
      versionBuilt built firstTag = .error (.fault (.numeralTooLong 4301)) := by
  have hheld : '\r' ∉ (String.ofList longNumeral).toList := by
    rw [String.toList_ofList]
    simp [longNumeral, List.mem_replicate]
  have hleast : 1 ≤ min plainSubject.depth (Subject.strandDepth - 1) := by decide
  have hnumeral {found : Except Halt Fields}
      (h : Manifest.ReadAs (String.ofList longNumeral)
        (min plainSubject.depth (Subject.strandDepth - 1)) found) :
      found = .error (.fault (.numeralTooLong 4301)) :=
    Manifest.eq_of_readAs (by rw [String.toList_ofList, read_longNumeral]) hleast h
  obtain ⟨exchanges, hanswered, hsame⟩ := Script.answered_under
    (answersWith (String.ofList longNumeral) (String.ofList longNumeral))
    (plainSubject.packaging.build firstTag Revision.previous.name ⟨1, ["tmp"]⟩)
  have hbuilt := builtAs_of_answered hanswered fun _ hmem =>
    Exchange.serves_of_answersWith (hsame _ hmem) hheld (.inl rfl) _
  have hfound (detail : String) :
      plainBuilt (String.ofList longNumeral) (String.ofList longNumeral) ≠
        .error (.failure (.stage .pack firstTag.name detail)) := by
    intro hdetail
    obtain ⟨⟨fields, hfields⟩, _⟩ | ⟨found, source, hread, hversion⟩ := hbuilt
    · cases hnumeral hfields
    · rw [plainBuilt] at hdetail
      rw [hnumeral hread, hdetail, versionIn_error] at hversion
      cases hversion
  have hboth := bothRead_under plainSubject firstTag ⟨1, ["tmp"]⟩ hheld (.inl rfl) hfound
  obtain ⟨found, found', source, source', hread, hread', hkept, hused⟩ := hboth.readAs
  refine ⟨_, _, hboth, ?_, ?_⟩
  · rw [hkept, hnumeral hread, versionIn_error]
  · rw [hused, hnumeral hread', versionIn_error]

end Decision

end NextRelease
