import NextRelease.Command.Basic
import NextRelease.Error
import NextRelease.Proofs.Text.Listing

/-! How a command that failed explains itself: in one line, which is the last line with something on
it of the error output, or of the standard output if there is no error output. An error output of
blanks only counts as one: nothing else is asked then, and the exit status is told. -/

namespace NextRelease

open Text

namespace CommandResult

variable {r : CommandResult}

/-- The output that is asked for an explanation. -/
def asked (r : CommandResult) : String := if r.err != "" then r.err else r.out

def statusText (r : CommandResult) : String := "exit status " ++ toString r.code

theorem asked_of_err (h : r.err ≠ "") : r.asked = r.err := if_pos (bne_iff_ne.2 h)

theorem asked_of_not_blank (h : ¬ Blank r.err) : r.asked = r.err :=
  asked_of_err fun hempty => h (by rw [hempty]; decide)

theorem asked_of_empty (h : r.err = "") : r.asked = r.out := by
  simp [asked, h]

theorem detail_of_blank (h : Blank r.asked) : r.detail = r.statusText :=
  if_pos (trim_eq_empty_iff.2 h)

theorem getLast?_eq_detail (h : ¬ Blank r.asked) :
    (lines (trim r.asked)).getLast? = some r.detail := by
  have hdetail : r.detail = (lines (trim r.asked)).getLast?.getD "" :=
    if_neg (mt trim_eq_empty_iff.1 h)
  obtain ⟨line, hline, _⟩ := exists_isLastLine h
  rw [hdetail, hline, Option.getD_some]

theorem isLastLine_detail (h : ¬ Blank r.asked) :
    IsOneLine r.detail ∧ IsLastLine r.detail r.asked := by
  obtain ⟨line, hline, htold⟩ := exists_isLastLine h
  rw [getLast?_eq_detail h] at hline
  cases hline
  exact htold

theorem unbroken_toString (code : Int) : Unbroken (toString code) := by
  have hdigits (n : Nat) : Unbroken n.repr := by
    intro c hc
    rw [Nat.toList_repr] at hc
    have hbounds := Bool.and_eq_true_iff.1 (isDigit_of_mem_toDigits hc)
    have hlow : 48 ≤ c.toNat := of_decide_eq_true hbounds.1
    have hhigh : c.toNat ≤ 57 := of_decide_eq_true hbounds.2
    exact isBreak_eq_false (not_isBlank_of_bounds (by omega) (by omega))
  have hminus : Unbroken "-" := by decide
  cases code with
  | ofNat n => exact hdigits n
  | negSucc n => exact hminus.append (hdigits (n + 1))

theorem isOneLine_statusText (r : CommandResult) : IsOneLine r.statusText where
  unbroken := Unbroken.append (by decide) (unbroken_toString r.code)
  not_blank h := absurd (h 'e' (by simp [statusText])) (by decide)

theorem isOneLine_detail (r : CommandResult) : IsOneLine r.detail := by
  by_cases hblank : Blank r.asked
  · rw [detail_of_blank hblank]
    exact isOneLine_statusText r
  · exact (isLastLine_detail hblank).1

theorem trim_detail_of_empty (herr : r.err = "") (hout : ¬ Blank r.out) :
    trim r.detail = r.lastLine := by
  have hasked := asked_of_empty herr
  rw [← hasked] at hout
  have hline := (isLastLine_detail hout).2
  rw [hasked] at hline
  rw [lastLine, hline.getLast? (isOneLine_detail r).not_blank, Option.getD_some]

end CommandResult

/-! ## The report of a stage -/

namespace Failure

theorem message_stage {detail : String} (h : detail ≠ "") (stage : Stage) (reference : String) :
    (Failure.stage stage reference detail).message =
      "failed to " ++ stage.name ++ " " ++ reference ++ ": " ++ detail := by
  have hshown : ¬ detail.isEmpty := mt String.isEmpty_iff.1 h
  have hmessage : (Failure.stage stage reference detail).message =
      "failed to " ++ stage.name ++ " " ++ reference ++ (": " ++ detail) :=
    congrArg ("failed to " ++ stage.name ++ " " ++ reference ++ ·) (if_neg hshown)
  rw [hmessage, ← String.append_assoc]

theorem isOneLine_message_stage {reference detail : String} (hreference : Unbroken reference)
    (h : IsOneLine detail) (stage : Stage) :
    IsOneLine (Failure.stage stage reference detail).message := by
  have hname : Unbroken stage.name := by cases stage <;> decide
  have hfirst : Unbroken "failed to " := by decide
  have hspace : Unbroken " " := by decide
  have hcolon : Unbroken ": " := by decide
  rw [message_stage h.ne_empty]
  exact h.prepend ((((hfirst.append hname).append hspace).append hreference).append hcolon)

end Failure

namespace CommandResult

/-- What is told is one line, and it is the last line with something on it of the error output, or
of the standard output where there is no error output; it is the exit status where the one that
counts is blank. The report of a stage always has it. -/
theorem detail_explains (r : CommandResult) :
    IsOneLine r.detail ∧
    (¬ Blank r.asked → (lines (trim r.asked)).getLast? = some r.detail) ∧
    (¬ Blank r.err → IsLastLine r.detail r.err) ∧
    (r.err = "" → ¬ Blank r.out → IsLastLine r.detail r.out) ∧
    (Blank r.err → (r.err = "" → Blank r.out) → r.detail = "exit status " ++ toString r.code) ∧
    ∀ stage reference, (Failure.stage stage reference r.detail).message =
      "failed to " ++ stage.name ++ " " ++ reference ++ ": " ++ r.detail := by
  refine ⟨isOneLine_detail r, getLast?_eq_detail, fun herr => ?_, fun hempty hout => ?_,
    fun herr hout => ?_, Failure.message_stage (isOneLine_detail r).ne_empty⟩
  · have hasked := asked_of_not_blank herr
    rw [← hasked] at herr
    exact hasked ▸ (isLastLine_detail herr).2
  · have hasked := asked_of_empty hempty
    rw [← hasked] at hout
    exact hasked ▸ (isLastLine_detail hout).2
  · refine detail_of_blank ?_
    by_cases hempty : r.err = ""
    · rw [asked_of_empty hempty]
      exact hout hempty
    · rwa [asked_of_err hempty]

/-- Of two lines with a separator between them the second is told, and the blank ones behind it do
not count. -/
theorem detail_explains_separator :
    let r : CommandResult :=
      ⟨1, "added 3 packages\n", "npm warn lock file\u2028 npm error missing script \r\n\u0085\n"⟩
    ¬ Blank r.err ∧ IsOneLine r.detail ∧ IsLastLine r.detail r.err ∧
      r.detail = " npm error missing script" := by
  intro r
  have herr : ¬ Blank r.err := by decide
  obtain ⟨hline, _, hlast, _⟩ := detail_explains r
  exact ⟨herr, hline, hlast herr, by decide⟩

/-- A line feed on the error output keeps what is on the standard output from being told. -/
theorem untold_of_newline :
    let r : CommandResult := ⟨1, "cannot find module\n", "\n"⟩
    ¬ (Blank r.err ∧ Blank r.out) ∧ r.detail = "exit status 1" ∧
      ∀ line ∈ lines r.err ++ lines r.out, trim line ≠ trim r.detail := by
  decide

end CommandResult

end NextRelease
