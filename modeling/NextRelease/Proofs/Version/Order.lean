import NextRelease.Version.Bump

/-! Precedence is a total preorder on versions, in which an increment is the least release above the
version that it raises with zeros below the raised part. The latest of some versions is their join,
and the first maximal version of a list stands below no other. -/

namespace NextRelease.Version

instance : Std.TransOrd PreIdentifier where
  eq_swap {p q} := by
    cases p with
    | number m =>
      cases q with
      | number n => exact Std.OrientedOrd.eq_swap (a := m)
      | word ws _ => rfl
    | word vs _ =>
      cases q with
      | number n => rfl
      | word ws _ => exact Std.OrientedOrd.eq_swap (a := vs)
  isLE_trans {p q r} hpq hqr := by
    cases p with
    | number l =>
      cases q with
      | number m =>
        cases r with
        | number n => exact Std.TransOrd.isLE_trans (a := l) hpq hqr
        | word ws _ => rfl
      | word vs _ =>
        cases r with
        | number n => exact nomatch hqr
        | word ws _ => rfl
    | word us _ =>
      cases q with
      | number m => exact nomatch hpq
      | word vs _ =>
        cases r with
        | number n => exact nomatch hqr
        | word ws _ => exact Std.TransOrd.isLE_trans (a := us) hpq hqr

instance : Std.LawfulEqOrd PreIdentifier where
  eq_of_compare {p q} h := by
    cases p with
    | number m =>
      cases q with
      | number n => exact congrArg PreIdentifier.number (Std.LawfulEqOrd.eq_of_compare (a := m) h)
      | word ws _ => exact nomatch h
    | word vs hv =>
      cases q with
      | number n => exact nomatch h
      | word ws hw =>
        obtain rfl : vs = ws := Std.LawfulEqOrd.eq_of_compare (a := vs) h
        rfl

instance : Std.TransCmp prePrecedence where
  eq_swap {ps qs} := by
    cases ps with
    | nil => cases qs <;> rfl
    | cons p ps =>
      cases qs with
      | nil => rfl
      | cons q qs => exact Std.OrientedOrd.eq_swap (a := p :: ps)
  isLE_trans {ps qs rs} hpq hqr := by
    cases ps with
    | nil =>
      cases qs with
      | nil => exact hqr
      | cons q qs => exact nomatch hpq
    | cons p ps =>
      cases qs with
      | nil =>
        cases rs with
        | nil => rfl
        | cons r rs => exact nomatch hqr
      | cons q qs =>
        cases rs with
        | nil => rfl
        | cons r rs => exact Std.TransOrd.isLE_trans (a := p :: ps) hpq hqr

theorem prePrecedence_eq_eq {ps qs : List PreIdentifier} : prePrecedence ps qs = .eq ↔ ps = qs := by
  cases ps with
  | nil => cases qs <;> simp [prePrecedence]
  | cons p ps =>
    cases qs with
    | nil => simp [prePrecedence]
    | cons q qs => exact Std.LawfulEqOrd.compare_eq_iff_eq

theorem precedence_eq_compareLex :
    precedence = compareLex (compareOn major) (compareLex (compareOn minor)
      (compareLex (compareOn patch) fun v w => prePrecedence v.pre w.pre)) := rfl

instance : Std.TransCmp fun v w : Version => prePrecedence v.pre w.pre where
  eq_swap {v w} := Std.OrientedCmp.eq_swap (a := v.pre) (b := w.pre)
  isLE_trans {u v w} := Std.TransCmp.isLE_trans (a := u.pre) (b := v.pre) (c := w.pre)

instance : Std.TransCmp precedence := by
  rw [precedence_eq_compareLex]
  infer_instance

theorem isBelow_iff {v w : Version} : v.isBelow w ↔ precedence v w = .lt := by
  simp [isBelow, Ordering.isLT_iff_eq_lt]

theorem not_isBelow_iff {v w : Version} : v.isBelow w = false ↔ (precedence w v).isLE := by
  have hswap : precedence v w = (precedence w v).swap := Std.OrientedCmp.eq_swap
  rw [← Bool.not_eq_true, isBelow_iff, hswap]
  cases precedence w v <;> decide

theorem isLevelWith_comm {v w : Version} : v.isLevelWith w = w.isLevelWith v := by
  have hswap : precedence v w = (precedence w v).swap := Std.OrientedCmp.eq_swap
  rw [isLevelWith, isLevelWith, hswap]
  cases precedence w v <;> rfl

theorem isLevelWith_refl (v : Version) : v.isLevelWith v := by
  have hself : precedence v v = .eq := Std.ReflCmp.compare_self
  rw [isLevelWith, hself]
  rfl

theorem isLevelWith_iff {v w : Version} :
    v.isLevelWith w ↔ v.isBelow w = false ∧ w.isBelow v = false := by
  have hswap : precedence w v = (precedence v w).swap := Std.OrientedCmp.eq_swap
  rw [isLevelWith, isBelow, isBelow, hswap]
  cases precedence v w <;> decide

theorem isLevelWith_iff_eq {v w : Version} :
    v.isLevelWith w ↔ { v with build := [] } = { w with build := [] } := by
  rw [isLevelWith, Ordering.isEq_iff_eq_eq, precedence]
  simp only [Ordering.then_eq_eq, Nat.compare_eq_eq, prePrecedence_eq_eq, mk.injEq, and_true]

theorem isBelow_irrefl (v : Version) : v.isBelow v = false :=
  not_isBelow_iff.2 Std.ReflCmp.isLE_rfl

theorem isBelow_trans {u v w : Version} (huv : u.isBelow v) (hvw : v.isBelow w) : u.isBelow w :=
  isBelow_iff.2 (Std.TransCmp.lt_trans (isBelow_iff.1 huv) (isBelow_iff.1 hvw))

theorem isBelow_of_isBelow_of_not {u v w : Version} (huv : u.isBelow v)
    (hwv : w.isBelow v = false) : u.isBelow w :=
  isBelow_iff.2 (Std.TransCmp.lt_of_lt_of_isLE (isBelow_iff.1 huv) (not_isBelow_iff.1 hwv))

theorem isBelow_of_not_of_isBelow {u v w : Version} (hvu : v.isBelow u = false)
    (hvw : v.isBelow w) : u.isBelow w :=
  isBelow_iff.2 (Std.TransCmp.lt_of_isLE_of_lt (not_isBelow_iff.1 hvu) (isBelow_iff.1 hvw))

theorem not_isBelow_trans {u v w : Version} (hvu : v.isBelow u = false)
    (hwv : w.isBelow v = false) : w.isBelow u = false :=
  not_isBelow_iff.2 (Std.TransCmp.isLE_trans (not_isBelow_iff.1 hvu) (not_isBelow_iff.1 hwv))

theorem not_isBelow_of_isBelow {v w : Version} (h : v.isBelow w) : w.isBelow v = false :=
  not_isBelow_iff.2 (by rw [isBelow_iff.1 h]; rfl)

theorem isBelow_total (v w : Version) : v.isBelow w = false ∨ w.isBelow v = false := by
  by_cases h : v.isBelow w
  · exact .inr (not_isBelow_of_isBelow h)
  · exact .inl (by simpa using h)

/-! ## Increments -/

theorem isBelow_finalized {v : Version} (h : v.pre ≠ []) : v.isBelow v.finalized := by
  rw [isBelow_iff]
  obtain ⟨p, ps, hpre⟩ := List.exists_cons_of_ne_nil h
  simp [precedence, finalized, hpre, prePrecedence]

theorem pre_ne_nil_of_leadsTo {v : Version} {bump : Bump} (h : v.leadsTo bump) : v.pre ≠ [] := by
  cases bump <;> simp_all [leadsTo]

theorem isBelow_increment (v : Version) (bump : Bump) : v.isBelow (v.increment bump) := by
  unfold increment
  split
  · next h => exact isBelow_finalized (pre_ne_nil_of_leadsTo h)
  · rw [isBelow_iff]
    cases bump <;> simp [precedence, Nat.compare_eq_lt.2]

/-! ## Increments as least releases -/

def IsResetBelow (v : Version) : Bump → Prop
  | .patch => True
  | .minor => v.patch = 0
  | .major => v.minor = 0 ∧ v.patch = 0

/-- A release that raises a part of a version, by however much. -/
structure CanFollow (v : Version) (bump : Bump) (w : Version) : Prop where
  pre : w.pre = []
  build : w.build = []
  above : v.isBelow w
  reset : w.IsResetBelow bump

theorem isRelease_increment (v : Version) (bump : Bump) :
    (v.increment bump).pre = [] ∧ (v.increment bump).build = [] := by
  unfold increment
  split
  · exact ⟨rfl, rfl⟩
  · cases bump <;> exact ⟨rfl, rfl⟩

theorem isResetBelow_increment (v : Version) (bump : Bump) :
    (v.increment bump).IsResetBelow bump := by
  unfold increment
  split
  · next hleads =>
    cases bump with
    | patch => trivial
    | minor =>
      have hzero : v.pre ≠ [] ∧ v.patch = 0 := by simpa [leadsTo] using hleads
      exact hzero.2
    | major =>
      have hzero : (v.pre ≠ [] ∧ v.minor = 0) ∧ v.patch = 0 := by simpa [leadsTo] using hleads
      exact ⟨hzero.1.2, hzero.2⟩
  · cases bump with
    | patch => trivial
    | minor => rfl
    | major => exact ⟨rfl, rfl⟩

theorem canFollow_increment (v : Version) (bump : Bump) : v.CanFollow bump (v.increment bump) :=
  ⟨(isRelease_increment v bump).1, (isRelease_increment v bump).2, isBelow_increment v bump,
    isResetBelow_increment v bump⟩

theorem isBelow_release_iff {v w : Version} (hw : w.pre = []) :
    v.isBelow w ↔ v.major < w.major ∨ v.major = w.major ∧
      (v.minor < w.minor ∨ v.minor = w.minor ∧
        (v.patch < w.patch ∨ v.patch = w.patch ∧ v.pre ≠ [])) := by
  have hpre : prePrecedence v.pre w.pre = .lt ↔ v.pre ≠ [] := by
    rw [hw]
    cases v.pre <;> simp [prePrecedence]
  rw [isBelow_iff, precedence]
  simp only [Ordering.then_eq_lt, Nat.compare_eq_lt, Nat.compare_eq_eq, hpre]

theorem CanFollow.not_isBelow_increment {v w : Version} {bump : Bump} (h : v.CanFollow bump w) :
    w.isBelow (v.increment bump) = false := by
  have habove := (isBelow_release_iff h.pre).1 h.above
  rw [← Bool.not_eq_true, isBelow_release_iff (canFollow_increment v bump).pre]
  simp only [h.pre, ne_eq, not_true_eq_false, and_false, or_false]
  unfold increment
  split
  · simp only [finalized]
    omega
  · next hleads =>
    -- Only a pre-release has a release of its own numbers above it, and that one is ruled out where
    -- a part below the raised one is not zero.
    cases bump with
    | patch =>
      have hrelease : v.pre = [] := by simpa [leadsTo] using hleads
      simp only [hrelease, ne_eq, not_true_eq_false, and_false, or_false] at habove
      simp only
      omega
    | minor =>
      have hpatch : w.patch = 0 := h.reset
      have hother : ¬(v.patch = w.patch ∧ v.pre ≠ []) := by
        rintro ⟨hsame, hpre⟩
        exact hleads (by simp [leadsTo, hpre, hsame, hpatch])
      simp only [hother, or_false] at habove
      simp only
      omega
    | major =>
      obtain ⟨hminor, hpatch⟩ : w.minor = 0 ∧ w.patch = 0 := h.reset
      have hother : ¬(v.minor = w.minor ∧ v.patch = w.patch ∧ v.pre ≠ []) := by
        rintro ⟨hsame, hsame', hpre⟩
        exact hleads (by simp [leadsTo, hpre, hsame, hsame', hminor, hpatch])
      simp only [hpatch, Nat.not_lt_zero, false_or] at habove hother
      simp only [hother, or_false] at habove
      simp only
      omega

/-- An increment is the least release that raises the part: it stands above the version with zeros
below the part, and below no other release that does. -/
theorem increment_isLeast (v : Version) (bump : Bump) :
    v.CanFollow bump (v.increment bump) ∧
      ∀ w, v.CanFollow bump w → w.isBelow (v.increment bump) = false :=
  ⟨canFollow_increment v bump, fun _ h => h.not_isBelow_increment⟩

theorem not_isBelow_increment {v w : Version} {bump bump' : Bump} (h : w.isBelow v = false)
    (hreset : ∀ u : Version, u.IsResetBelow bump' → u.IsResetBelow bump) :
    (w.increment bump').isBelow (v.increment bump) = false := by
  have hnext := canFollow_increment w bump'
  have hfollows : v.CanFollow bump (w.increment bump') :=
    ⟨hnext.pre, hnext.build, isBelow_of_not_of_isBelow h hnext.above, hreset _ hnext.reset⟩
  exact hfollows.not_isBelow_increment

theorem major_le_of_not_isBelow {v w : Version} (h : w.isBelow v = false) : v.major ≤ w.major := by
  refine Nat.le_of_not_lt fun hlt => ?_
  have hbelow : precedence w v = .lt := by
    rw [precedence, Nat.compare_eq_lt.2 hlt]
    rfl
  exact nomatch (isBelow_iff.2 hbelow).symm.trans h

/-! ## The later of two versions -/

theorem latest_of_isBelow {v w : Version} (h : v.isBelow w) : v.latest (some w) = w := if_pos h

theorem latest_of_not {v : Version} {declared : Option Version}
    (h : ∀ w ∈ declared, v.isBelow w = false) : v.latest declared = v := by
  cases declared with
  | none => rfl
  | some w => simp [latest, h w rfl]

theorem latest_cases (v : Version) (declared : Option Version) :
    (∃ w ∈ declared, v.isBelow w ∧ v.latest declared = w) ∨
      (∀ w ∈ declared, v.isBelow w = false) ∧ v.latest declared = v := by
  by_cases h : ∃ w ∈ declared, v.isBelow w
  · obtain ⟨w, rfl, hbelow⟩ := h
    exact .inl ⟨w, rfl, hbelow, latest_of_isBelow hbelow⟩
  · have hnot (w : Version) (hw : w ∈ declared) : v.isBelow w = false :=
      Bool.eq_false_iff.2 fun hbelow => h ⟨w, hw, hbelow⟩
    exact .inr ⟨hnot, latest_of_not hnot⟩

theorem isBelow_latest_iff {u v : Version} {declared : Option Version} :
    u.isBelow (v.latest declared) ↔ u.isBelow v ∨ ∃ w ∈ declared, u.isBelow w := by
  obtain ⟨w, rfl, hvw, heq⟩ | ⟨hnot, heq⟩ := latest_cases v declared
  · rw [heq]
    constructor
    · exact fun huw => .inr ⟨w, rfl, huw⟩
    · rintro (huv | ⟨_, ⟨⟩, huw⟩)
      · exact isBelow_trans huv hvw
      · exact huw
  · rw [heq]
    constructor
    · exact .inl
    · rintro (huv | ⟨w, hw, huw⟩)
      · exact huv
      · exact isBelow_of_isBelow_of_not huw (hnot w hw)

theorem not_latest_isBelow (v : Version) (declared : Option Version) :
    (v.latest declared).isBelow v = false := by
  obtain ⟨w, _, hbelow, heq⟩ | ⟨_, heq⟩ := latest_cases v declared
  · rw [heq]
    exact not_isBelow_of_isBelow hbelow
  · rw [heq]
    exact isBelow_irrefl v

theorem not_latest_isBelow_declared (v w : Version) : (v.latest (some w)).isBelow w = false := by
  obtain ⟨_, ⟨⟩, _, heq⟩ | ⟨hnot, heq⟩ := latest_cases v (some w)
  · rw [heq]
    exact isBelow_irrefl w
  · rw [heq]
    exact hnot w rfl

theorem not_latest_isBelow_latest {v w : Version} {declared declared' : Option Version}
    (h : w.isBelow v = false)
    (hdeclared : ∀ u ∈ declared, ∃ u' ∈ declared', u'.isBelow u = false) :
    (w.latest declared').isBelow (v.latest declared) = false := by
  obtain ⟨u, hu, _, heq⟩ | ⟨_, heq⟩ := latest_cases v declared
  · obtain ⟨u', rfl, hle⟩ := hdeclared u hu
    rw [heq]
    exact not_isBelow_trans hle (not_latest_isBelow_declared w u')
  · rw [heq]
    exact not_isBelow_trans h (not_latest_isBelow w declared')

theorem isBelow_next (v : Version) (declared : Option Version) (forwards backwards : Bool) :
    v.isBelow (v.next declared forwards backwards) :=
  isBelow_latest_iff.2 (.inl (isBelow_increment v _))

/-! ## The latest of many versions -/

/-- Versions that are put together two at a time. -/
inductive Grouping where
  | single (version : Version)
  | both (left right : Grouping)

namespace Grouping

def versions : Grouping → List Version
  | single v => [v]
  | both left right => left.versions ++ right.versions

/-- What is left when the later one of two is kept again and again. -/
def latest : Grouping → Version
  | single v => v
  | both left right => left.latest.latest (some right.latest)

def inTurn (first : Version) (rest : List Version) : Grouping :=
  rest.foldl (fun grouping v => both grouping (single v)) (single first)

theorem versions_foldl (rest : List Version) (g : Grouping) :
    (rest.foldl (fun grouping v => both grouping (single v)) g).versions = g.versions ++ rest := by
  induction rest generalizing g with
  | nil => simp
  | cons v rest ih =>
    rw [List.foldl_cons, ih, versions, versions, List.append_assoc, List.singleton_append]

theorem latest_foldl (rest : List Version) (g : Grouping) :
    (rest.foldl (fun grouping v => both grouping (single v)) g).latest =
      rest.foldl (fun v w => v.latest (some w)) g.latest := by
  induction rest generalizing g with
  | nil => rfl
  | cons v rest ih => exact ih _

theorem latest_mem (g : Grouping) : g.latest ∈ g.versions := by
  induction g with
  | single v => exact List.mem_singleton_self v
  | both left right ihl ihr =>
    rw [latest, versions]
    obtain ⟨_, ⟨⟩, _, heq⟩ | ⟨_, heq⟩ := latest_cases left.latest (some right.latest)
    · rw [heq]
      exact List.mem_append_right _ ihr
    · rw [heq]
      exact List.mem_append_left _ ihl

theorem not_latest_isBelow (g : Grouping) : ∀ v ∈ g.versions, g.latest.isBelow v = false := by
  induction g with
  | single v => exact List.forall_mem_singleton.2 (isBelow_irrefl v)
  | both left right ihl ihr =>
    refine List.forall_mem_append.2 ⟨fun v hv => ?_, fun v hv => ?_⟩
    · exact not_isBelow_trans (ihl v hv) (Version.not_latest_isBelow _ _)
    · exact not_isBelow_trans (ihr v hv) (not_latest_isBelow_declared _ _)

theorem isLevelWith_latest {g g' : Grouping} (h : g'.versions.Perm g.versions) :
    g'.latest.isLevelWith g.latest :=
  isLevelWith_iff.2 ⟨g'.not_latest_isBelow _ (h.mem_iff.2 g.latest_mem),
    g.not_latest_isBelow _ (h.mem_iff.1 g'.latest_mem)⟩

end Grouping

/-- Not to stand above is a total preorder in which versions are equivalent exactly if they differ
in their build identifiers at the most. So the latest of some versions, put together in whatever order
and grouping, is one of them that stands below none, and it is the same one but for its build. -/
theorem latest_isJoin :
    (∀ v : Version, v.isBelow v = false) ∧
    (∀ u v w : Version, v.isBelow u = false → w.isBelow v = false → w.isBelow u = false) ∧
    (∀ v w : Version, v.isBelow w = false ∨ w.isBelow v = false) ∧
    (∀ v w : Version, v.isBelow w = false ∧ w.isBelow v = false ↔
      { v with build := [] } = { w with build := [] }) ∧
    ∀ (first : Version) (rest : List Version),
      (∃ g : Grouping, g.versions = first :: rest ∧
        g.latest = rest.foldl (fun v w => v.latest (some w)) first) ∧
      ∀ g : Grouping, g.versions.Perm (first :: rest) →
        g.latest ∈ first :: rest ∧ (∀ v ∈ first :: rest, g.latest.isBelow v = false) ∧
        ∀ g' : Grouping, g'.versions.Perm (first :: rest) →
          { g'.latest with build := [] } = { g.latest with build := [] } := by
  refine ⟨isBelow_irrefl, fun _ _ _ => not_isBelow_trans, isBelow_total,
    fun v w => isLevelWith_iff.symm.trans isLevelWith_iff_eq,
    fun first rest => ⟨?_, fun g hg => ?_⟩⟩
  · exact ⟨.inTurn first rest, Grouping.versions_foldl rest _, Grouping.latest_foldl rest _⟩
  · refine ⟨hg.mem_iff.1 g.latest_mem, fun v hv => g.not_latest_isBelow v (hg.mem_iff.2 hv),
      fun g' hg' => ?_⟩
    exact isLevelWith_iff_eq.1 (Grouping.isLevelWith_latest (hg'.trans hg.symm))

theorem latest_isJoin_builds :
    let one : Version := ⟨1, 0, 0, [.word ['a'] rfl], [⟨['x'], rfl⟩]⟩
    let other : Version := ⟨1, 0, 0, [.word ['a'] rfl], [⟨['y'], rfl⟩]⟩
    let lower : Version := ⟨1, 0, 0, [.number 7], []⟩
    let g : Grouping := .both (.single one) (.both (.single lower) (.single other))
    let g' : Grouping := .both (.both (.single other) (.single lower)) (.single one)
    g.versions.Perm [lower, one, other] ∧ g'.versions.Perm [lower, one, other] ∧
      g.latest ∈ [lower, one, other] ∧ g.latest ≠ g'.latest ∧
      { g'.latest with build := [] } = { g.latest with build := [] } := by
  intro one other lower g g'
  have hg : g.versions.Perm [lower, one, other] := .swap _ _ _
  have hg' : g'.versions.Perm [lower, one, other] := by decide
  obtain ⟨_, _, _, _, hlatest⟩ := latest_isJoin
  obtain ⟨hmem, _, hsame⟩ := (hlatest lower [one, other]).2 g hg
  exact ⟨hg, hg', hmem, by decide, hsame g' hg'⟩

/-! ## Maxima of lists -/

section Maximal

variable {α : Type}

def IsFirstMaximal (best : Version × α) (pairs : List (Version × α)) : Prop :=
  ∃ before after, pairs = before ++ best :: after ∧ (∀ pair ∈ before, pair.1.isBelow best.1) ∧
    ∀ pair ∈ after, best.1.isBelow pair.1 = false

namespace IsFirstMaximal

variable {best start next : Version × α} {pairs : List (Version × α)}

theorem mem (h : IsFirstMaximal best pairs) : best ∈ pairs := by
  obtain ⟨before, after, rfl, _, _⟩ := h
  simp

theorem not_isBelow (h : IsFirstMaximal best pairs) : ∀ pair ∈ pairs, best.1.isBelow pair.1 = false := by
  obtain ⟨before, after, rfl, hbefore, hafter⟩ := h
  intro pair hpair
  rcases List.mem_append.1 hpair with hpair | hpair
  · exact not_isBelow_of_isBelow (hbefore pair hpair)
  · rcases List.mem_cons.1 hpair with rfl | hpair
    · exact isBelow_irrefl _
    · exact hafter pair hpair

theorem cons (h : IsFirstMaximal best pairs) (hnext : next ∈ pairs) (hlt : start.1.isBelow next.1) :
    IsFirstMaximal best (start :: pairs) := by
  have hbest : start.1.isBelow best.1 := isBelow_of_isBelow_of_not hlt (h.not_isBelow next hnext)
  obtain ⟨before, after, rfl, hbefore, hafter⟩ := h
  refine ⟨start :: before, after, rfl, fun pair hpair => ?_, hafter⟩
  rcases List.mem_cons.1 hpair with rfl | hpair
  · exact hbest
  · exact hbefore pair hpair

theorem insert (h : IsFirstMaximal best (start :: pairs)) (hnot : start.1.isBelow next.1 = false) :
    IsFirstMaximal best (start :: next :: pairs) := by
  obtain ⟨before, after, hpairs, hbefore, hafter⟩ := h
  cases before with
  | nil =>
    cases hpairs
    refine ⟨[], next :: pairs, rfl, by simp, fun pair hpair => ?_⟩
    rcases List.mem_cons.1 hpair with rfl | hpair
    · exact hnot
    · exact hafter pair hpair
  | cons first before =>
    cases hpairs
    have hstart : start.1.isBelow best.1 := hbefore start List.mem_cons_self
    refine ⟨start :: next :: before, after, rfl, fun pair hpair => ?_, hafter⟩
    rcases List.mem_cons.1 hpair with rfl | hpair
    · exact hstart
    · rcases List.mem_cons.1 hpair with rfl | hpair
      · exact isBelow_of_not_of_isBelow hnot hstart
      · exact hbefore pair (List.mem_cons_of_mem _ hpair)

end IsFirstMaximal

theorem isFirstMaximal_foldl (pairs : List (Version × α)) (start : Version × α) :
    IsFirstMaximal
      (pairs.foldl (fun best next => if isBelow best.1 next.1 then next else best) start)
      (start :: pairs) := by
  -- The best so far is what the induction goes on from, so it ranges over all starts.
  induction pairs generalizing start with
  | nil => exact ⟨[], [], rfl, by simp, by simp⟩
  | cons next pairs ih =>
    rw [List.foldl_cons]
    split
    · next hlt => exact (ih next).cons List.mem_cons_self hlt
    · next hnot => exact (ih start).insert (by simpa using hnot)

theorem isFirstMaximal_of_firstMaximal? {pairs : List (Version × α)} {best : Version × α}
    (h : firstMaximal? pairs = some best) : IsFirstMaximal best pairs := by
  cases pairs with
  | nil => cases h
  | cons start pairs =>
    cases h
    exact isFirstMaximal_foldl pairs start

theorem firstMaximal?_eq_none {pairs : List (Version × α)} :
    firstMaximal? pairs = none ↔ pairs = [] := by
  cases pairs <;> simp [firstMaximal?]

end Maximal

end NextRelease.Version
