import NextRelease.Proofs.Text.Pieces

/-! Listings: names printed one a line, whatever is in the names. A break within a name starts a
line of its own, but a word is found on some line in any case, because breaks are blanks. For the
same reason the last line of a trimmed text is the last one of the text that has something on it. -/

namespace NextRelease.Text

/-! ## Lines of names -/

def Unbroken (s : String) : Prop := ∀ c ∈ s.toList, isBreak c = false

instance (s : String) : Decidable (Unbroken s) :=
  decidable_of_iff (s.toList.all fun c => !isBreak c) (by simp [Unbroken])

theorem Unbroken.append {s t : String} (hs : Unbroken s) (ht : Unbroken t) : Unbroken (s ++ t) := by
  intro c hc
  rw [String.toList_append, List.mem_append] at hc
  exact hc.elim (hs c) (ht c)

theorem charLines_break {c : Char} {cs : List Char} (h : isBreak c)
    (hpair : ∀ rest, c = '\r' → cs ≠ '\n' :: rest) : charLines (c :: cs) = [] :: charLines cs := by
  rw [charLines.eq_3 _ _ fun rest hc hcs => hpair rest hc hcs, if_pos h]

theorem charLines_ne_nil {c : Char} (cs : List Char) : charLines (c :: cs) ≠ [] := by
  unfold charLines
  split
  · next heq => cases heq
  · simp
  · split
    · simp
    · split <;> simp

theorem charLines_append_newline (cs rest : List Char) :
    charLines (cs ++ '\n' :: rest) = charLines (cs ++ ['\n']) ++ charLines rest := by
  have hnewline (rest : List Char) : charLines ('\n' :: rest) = [] :: charLines rest :=
    charLines_break (by decide) (by simp)
  have hword {c : Char} {cs : List Char} (hc : isBreak c = false)
      (ih : charLines (cs ++ '\n' :: rest) = charLines (cs ++ ['\n']) ++ charLines rest) :
      charLines (c :: cs ++ '\n' :: rest) = charLines (c :: cs ++ ['\n']) ++ charLines rest := by
    rw [List.cons_append, List.cons_append, charLines_cons hc, charLines_cons hc, ih]
    cases hlines : charLines (cs ++ ['\n']) with
    | nil => cases cs <;> exact absurd hlines (charLines_ne_nil _)
    | cons line lines => rfl
  induction cs using charLines.induct with
  | case1 =>
    rw [List.nil_append, List.nil_append, hnewline, hnewline]
    rfl
  | case2 cs ih => simp only [List.cons_append, charLines, ih]
  | case3 c cs hpair hbreak ih =>
    by_cases hlast : c = '\r' ∧ cs = []
    · obtain ⟨rfl, rfl⟩ := hlast
      rfl
    · -- The line feed joins the break before it only where nothing is between them.
      have hfront (rest : List Char) :
          charLines (c :: (cs ++ '\n' :: rest)) = [] :: charLines (cs ++ '\n' :: rest) := by
        refine charLines_break hbreak fun rest' hc hcs => ?_
        cases cs with
        | nil => exact hlast ⟨hc, rfl⟩
        | cons d ds =>
          cases hcs
          exact hpair ds hc rfl
      rw [List.cons_append, List.cons_append, hfront, hfront, ih]
      rfl
  | case4 c cs hpair hbreak hnil ih => exact hword (by simpa using hbreak) ih
  | case5 c cs hpair hbreak line lines hlines ih => exact hword (by simpa using hbreak) ih

theorem lines_wordLines_eq_flatMap (names : List String) :
    lines (wordLines names) = names.flatMap fun name => lines (name ++ "\n") := by
  induction names with
  | nil => rfl
  | cons name names ih =>
    have hchars : (wordLines (name :: names)).toList =
        name.toList ++ '\n' :: (wordLines names).toList := by
      simp [wordLines, String.toList_join, String.toList_append]
    rw [List.flatMap_cons, ← ih, lines, hchars, charLines_append_newline, List.map_append]
    rw [lines, lines, String.toList_append]
    rfl

theorem lines_append_newline {name : String} (h : Unbroken name) :
    lines (name ++ "\n") = [name] := by
  have hchars := charLines_append_cons h []
  rw [lines, String.toList_append]
  exact (congrArg _ hchars).trans (by simp [charLines])

structure IsLine (s : String) : Prop where
  nonempty : s ≠ ""
  unbroken : Unbroken s
  trimmed : trim s = s

theorem IsWord.isLine {s : String} (h : IsWord s) : IsLine s :=
  ⟨h.1, fun c hc => isBreak_eq_false (h.2 c hc), trim_eq_self h.2⟩

theorem lines_wordLines {names : List String} (h : ∀ name ∈ names, Unbroken name) :
    lines (wordLines names) = names := by
  rw [lines_wordLines_eq_flatMap]
  induction names with
  | nil => rfl
  | cons name names ih =>
    rw [List.flatMap_cons, lines_append_newline (h name List.mem_cons_self),
      ih fun other hother => h other (List.mem_cons_of_mem _ hother), List.singleton_append]

theorem mem_of_mem_charLines {cs line : List Char} (hline : line ∈ charLines cs) {c : Char}
    (hc : c ∈ line) : c ∈ cs ∧ isBreak c = false := by
  induction cs using charLines.induct generalizing line with
  | case1 => cases hline
  | case2 cs ih =>
    rw [charLines] at hline
    rcases List.mem_cons.1 hline with rfl | hline
    · cases hc
    · exact (ih hline hc).imp_left fun h => List.mem_cons_of_mem _ (List.mem_cons_of_mem _ h)
  | case3 d cs hpair hbreak ih =>
    rw [charLines_break hbreak fun rest hd hcs => hpair rest hd hcs] at hline
    rcases List.mem_cons.1 hline with rfl | hline
    · cases hc
    · exact (ih hline hc).imp_left (List.mem_cons_of_mem d)
  | case4 d cs hpair hbreak hnil ih =>
    have hd : isBreak d = false := by simpa using hbreak
    rw [charLines_cons hd, hnil] at hline
    cases List.mem_singleton.1 hline
    cases List.mem_singleton.1 hc
    exact ⟨List.mem_cons_self, hd⟩
  | case5 d cs hpair hbreak first rest hlines ih =>
    have hd : isBreak d = false := by simpa using hbreak
    rw [charLines_cons hd, hlines] at hline
    rw [hlines] at ih
    rcases List.mem_cons.1 hline with rfl | hline
    · rcases List.mem_cons.1 hc with rfl | hc
      · exact ⟨List.mem_cons_self, hd⟩
      · exact (ih List.mem_cons_self hc).imp_left (List.mem_cons_of_mem d)
    · exact (ih (List.mem_cons_of_mem _ hline) hc).imp_left (List.mem_cons_of_mem d)

structure Leads (front : List Char) (before : List (List Char)) (start : List Char) : Prop where
  start_subset : start ⊆ front
  append : ∀ {c cs line lines}, isBreak c = false → charLines (c :: cs) = line :: lines →
    charLines (front ++ c :: cs) = before ++ (start ++ line) :: lines

theorem Leads.cons {front start : List Char} {before : List (List Char)} {d : Char}
    (h : Leads front before start) (hd : isBreak d = false) :
    ∃ before' start', Leads (d :: front) before' start' := by
  cases before with
  | nil =>
    refine ⟨[], d :: start, List.cons_subset_cons d h.start_subset, fun hc hlines => ?_⟩
    rw [List.cons_append, charLines_cons hd, h.append hc hlines]
    rfl
  | cons first before =>
    refine ⟨(d :: first) :: before, start, fun _ hc => List.mem_cons_of_mem d (h.start_subset hc),
      fun hc hlines => ?_⟩
    rw [List.cons_append, charLines_cons hd, h.append hc hlines]
    rfl

theorem exists_leads (front : List Char) : ∃ before start, Leads front before start := by
  induction front using charLines.induct with
  | case1 => exact ⟨[], [], List.Subset.refl _, fun _ hlines => hlines⟩
  | case2 front ih =>
    obtain ⟨before, start, h⟩ := ih
    refine ⟨[] :: before, start,
      fun _ hc => List.mem_cons_of_mem _ (List.mem_cons_of_mem _ (h.start_subset hc)),
      fun hc hlines => ?_⟩
    rw [List.cons_append, List.cons_append, charLines, h.append hc hlines]
    rfl
  | case3 d front hpair hbreak ih =>
    obtain ⟨before, start, h⟩ := ih
    refine ⟨[] :: before, start, fun _ hc => List.mem_cons_of_mem d (h.start_subset hc),
      fun {c cs _ _} hc hlines => ?_⟩
    have hjoin (rest : List Char) (hd : d = '\r') : front ++ c :: cs ≠ '\n' :: rest := by
      intro hrest
      cases front with
      | nil =>
        cases hrest
        exact absurd hc (by decide)
      | cons e front =>
        cases hrest
        exact hpair front hd rfl
    rw [List.cons_append, charLines_break hbreak hjoin, h.append hc hlines]
    rfl
  | case4 d front hpair hbreak hnil ih =>
    obtain ⟨_, _, h⟩ := ih
    exact h.cons (by simpa using hbreak)
  | case5 d front hpair hbreak next rest hlines ih =>
    obtain ⟨_, _, h⟩ := ih
    exact h.cons (by simpa using hbreak)

/-! ## The last line -/

theorem charLines_unbroken {line : List Char} (h : ∀ c ∈ line, isBreak c = false)
    (hne : line ≠ []) : charLines line = [line] := by
  induction line with
  | nil => exact absurd rfl hne
  | cons c cs ih =>
    rw [charLines_cons (h c List.mem_cons_self)]
    cases cs with
    | nil => rfl
    | cons d ds => rw [ih (fun e he => h e (List.mem_cons_of_mem c he)) (List.cons_ne_nil d ds)]

theorem exists_charLines_cons {c : Char} (h : isBreak c = false) (back : List Char) :
    ∃ finish after, charLines (c :: back) = (c :: finish) :: after ∧ finish ⊆ back ∧
      ∀ later ∈ after, later ⊆ back := by
  have hmem {line : List Char} (hline : line ∈ charLines back) : line ⊆ back :=
    fun _ hd => (mem_of_mem_charLines hline hd).1
  rw [charLines_cons h]
  cases hlines : charLines back with
  | nil => exact ⟨[], [], rfl, List.nil_subset _, by simp⟩
  | cons finish after =>
    rw [hlines] at hmem
    exact ⟨finish, after, rfl, hmem List.mem_cons_self,
      fun later hlater => hmem (List.mem_cons_of_mem _ hlater)⟩

theorem exists_charLines_last {front word back : List Char} (hfront : ∀ c ∈ front, isBlank c)
    (hback : ∀ c ∈ back, isBlank c) (h : IsTrimmed isBlank word) (hne : word ≠ []) :
    ∃ last, (charLines word).getLast? = some last ∧ (∃ c ∈ last, isBlank c = false) ∧
      ∃ before start finish after,
        charLines (front ++ word ++ back) = before ++ (start ++ last ++ finish) :: after ∧
        (∀ c ∈ start, isBlank c) ∧ (∀ c ∈ finish, isBlank c) ∧
        ∀ later ∈ after, ∀ c ∈ later, isBlank c := by
  obtain ⟨shorter, d, rfl⟩ := (List.eq_nil_or_concat' word).resolve_left hne
  have hlast : isBlank d = false := h.last d (by simp)
  have hd := isBreak_eq_false hlast
  obtain ⟨before, start, hshorter⟩ := exists_leads shorter
  have hword : charLines (shorter ++ [d]) = before ++ [start ++ [d]] :=
    hshorter.append hd (charLines_cons hd [])
  obtain ⟨finish, after, hlines, hfinish, hafter⟩ := exists_charLines_cons hd back
  have hrest : charLines (shorter ++ d :: back) = before ++ (start ++ d :: finish) :: after :=
    hshorter.append hd hlines
  have hfinish' : ∀ c ∈ finish, isBlank c := fun c hc => hback c (hfinish hc)
  have hafter' : ∀ later ∈ after, ∀ c ∈ later, isBlank c :=
    fun later hlater c hc => hback c (hafter later hlater hc)
  refine ⟨start ++ [d], by simp [hword], ⟨d, by simp, hlast⟩, ?_⟩
  obtain ⟨earlier, blanks, hleads⟩ := exists_leads front
  obtain ⟨c, cs, hcs, hc⟩ : ∃ c cs, shorter ++ d :: back = c :: cs ∧ isBlank c = false := by
    cases shorter with
    | nil => exact ⟨d, back, rfl, hlast⟩
    | cons c cs => exact ⟨c, cs ++ d :: back, rfl, h.head c rfl⟩
  have htext : front ++ (shorter ++ [d]) ++ back = front ++ c :: cs := by simp [← hcs]
  rw [hcs] at hrest
  rw [htext]
  cases before with
  | nil =>
    have hblanks : ∀ c ∈ blanks, isBlank c := fun c hc => hfront c (hleads.start_subset hc)
    refine ⟨earlier, blanks, finish, after, ?_, hblanks, hfinish', hafter'⟩
    simp [hleads.append (isBreak_eq_false hc) hrest]
  | cons first before =>
    refine ⟨earlier ++ (blanks ++ first) :: before, [], finish, after, ?_, by simp, hfinish',
      hafter'⟩
    simp [hleads.append (isBreak_eq_false hc) hrest]

/-- One line with something on it. -/
structure IsOneLine (s : String) : Prop where
  unbroken : Unbroken s
  not_blank : ¬ Blank s

theorem IsOneLine.ne_empty {s : String} (h : IsOneLine s) : s ≠ "" := by
  rintro rfl
  exact h.not_blank (by decide)

theorem IsOneLine.prepend {front s : String} (hfront : Unbroken front) (h : IsOneLine s) :
    IsOneLine (front ++ s) where
  unbroken := hfront.append h.unbroken
  not_blank hblank := h.not_blank fun c hc => hblank c (by simp [hc])

/-- The last line of a text with something on it, but for blanks at its two ends. -/
def IsLastLine (line text : String) : Prop :=
  ∃ before start finish after, lines text = before ++ (start ++ line ++ finish) :: after ∧
    Blank start ∧ Blank finish ∧ ∀ later ∈ after, Blank later

theorem exists_isLastLine {s : String} (h : ¬ Blank s) :
    ∃ line, (lines (trim s)).getLast? = some line ∧ IsOneLine line ∧ IsLastLine line s := by
  obtain ⟨front, back, hs, hfront, hback⟩ := exists_trimBy isBlank s.toList
  have hne : trimBy isBlank s.toList ≠ [] := by
    intro hnil
    exact h (trim_eq_empty_iff.1 (by rw [trim, trimChars, hnil]))
  obtain ⟨last, hlast, ⟨c, hc, hshown⟩, before, start, finish, after, hlines, hstart, hfinish,
    hafter⟩ := exists_charLines_last hfront hback (isTrimmed_trimBy isBlank s.toList) hne
  rw [← hs] at hlines
  refine ⟨String.ofList last, ?_, ⟨fun d hd => ?_, fun hblank => ?_⟩, before.map String.ofList,
    String.ofList start, String.ofList finish, after.map String.ofList, ?_, ?_, ?_, ?_⟩
  · rw [lines, trim, String.toList_ofList, trimChars, List.getLast?_map, hlast]
    rfl
  · rw [String.toList_ofList] at hd
    exact (mem_of_mem_charLines (List.mem_of_getLast? hlast) hd).2
  · have hc' := hblank c (by rwa [String.toList_ofList])
    rw [hshown] at hc'
    cases hc'
  · simp [lines, hlines, String.append_assoc]
  · simpa [Blank] using hstart
  · simpa [Blank] using hfinish
  · simpa [Blank] using hafter

theorem IsLastLine.exists_trim {line text : String} (h : IsLastLine line text) :
    ∃ found ∈ lines text, trim found = trim line := by
  obtain ⟨before, start, finish, after, hlines, hstart, hfinish, _⟩ := h
  exact ⟨start ++ line ++ finish, by simp [hlines], trim_append hstart hfinish line⟩

theorem IsLastLine.getLast? {line text : String} (h : IsLastLine line text)
    (hshown : ¬ Blank line) :
    (((lines text).map trim).filter (· != "")).getLast? = some (trim line) := by
  obtain ⟨before, start, finish, after, hlines, hstart, hfinish, hafter⟩ := h
  have hkept : (trim line != "") = true := bne_iff_ne.2 (mt trim_eq_empty_iff.1 hshown)
  have hdropped : (after.map trim).filter (· != "") = [] := by
    simpa [List.filter_eq_nil_iff, trim_eq_empty_iff] using hafter
  rw [hlines, List.map_append, List.map_cons, trim_append hstart hfinish, List.filter_append,
    List.filter_cons_of_pos (p := (· != "")) hkept, hdropped]
  exact List.getLast?_concat

theorem exists_line_trim {s : String} (h : IsWord (trim s)) :
    ∃ line ∈ lines (s ++ "\n"), trim line = trim s := by
  have hshown : ¬ Blank (s ++ "\n") := fun hblank => h.1 (trim_line s ▸ trim_eq_empty_iff.2 hblank)
  obtain ⟨last, hlast, _, hline⟩ := exists_isLastLine hshown
  have hlines : lines (trim s) = [trim s] := by
    rw [lines, charLines_unbroken (fun c hc => isBreak_eq_false (h.2 c hc))
      (mt String.toList_eq_nil_iff.1 h.1), List.map_singleton, String.ofList_toList]
  rw [trim_line, hlines] at hlast
  cases hlast
  obtain ⟨found, hfound, htrim⟩ := hline.exists_trim
  exact ⟨found, hfound, htrim.trans (trim_trim s)⟩

end NextRelease.Text
