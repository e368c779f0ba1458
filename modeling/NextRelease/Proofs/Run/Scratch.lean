import NextRelease.Proofs.Files.Removing
import NextRelease.Proofs.Run.Course
import NextRelease.Proofs.Text.Pieces

/-! Scratch directories: one is new when work in it begins, and when the work is over it is gone, or
every attempt to remove it was refused. -/

namespace NextRelease

open Script

namespace Scratch

variable {host : Host} {stem : String} {base : Option Path} {w made : World} {scratch : Path}

theorem makeFirst_eq_ok {tree tree' : FileTree} {cwd : Place} {paths : List Path} {path : Path}
    (h : makeFirst tree cwd paths = .ok (path, tree')) :
    path ∈ paths ∧ tree.makeDirectory (path.route cwd) = .ok tree' := by
  induction paths with
  | nil => cases h
  | cons first paths ih =>
    unfold makeFirst at h
    split at h
    · next hmade =>
      cases h
      exact ⟨List.mem_cons_self, hmade⟩
    · exact (ih h).imp_left (List.mem_cons_of_mem _)
    · cases h

theorem make_ok (h : make stem base host w = (.ok scratch, made)) :
    ∃ text, w.files.makeDirectory (scratch.route host.cwd) = .ok made.files ∧
      made.events = w.events ++ [.scratch scratch, .note .main .debug text] := by
  unfold make at h
  dsimp only at h
  split at h
  · cases h
  · next path tree hmade =>
    cases h
    exact ⟨"Created scratch workspace " ++ toString scratch, (makeFirst_eq_ok hmade).2,
      by simp [World.record]⟩

theorem make_error {cause : Halt} (h : make stem base host w = (.error cause, made)) :
    ∃ paths fault, makeFirst w.files host.cwd paths = .error fault ∧
      cause = .fault (.files fault) ∧
      made = w.record (.failed .main (.makeScratch paths) w.files fault) := by
  unfold make at h
  dsimp only at h
  split at h
  · next fault hfault =>
    cases h
    exact ⟨_, fault, hfault, rfl, rfl⟩
  · cases h

def refusals (path : Path) : Nat → List String → List Event
  | _, [] =>
    [.note .main .warning ("Could not remove temporary directory [" ++ toString path ++ "]")]
  | attempt, reason :: reasons =>
    .note .main .debug ("Removing " ++ toString path ++ " failed (attempt " ++ toString attempt ++
      "): " ++ reason) :: refusals path (attempt + 1) reasons

def Removed (host : Host) (path : Path) (record : List Event) (files : FileTree) : Prop :=
  (∀ kind, files.status (path.route host.cwd) ≠ .ok kind) ∨
    ∃ reasons : List String, reasons.length = removeRetries ∧ refusals path 1 reasons <:+: record

theorem Removed.mono {path : Path} {record record' : List Event} {files : FileTree}
    (h : Removed host path record files) (hpiece : record <:+: record') :
    Removed host path record' files := by
  refine h.imp id ?_
  rintro ⟨reasons, hlength, hrefusals⟩
  exact ⟨reasons, hlength, hrefusals.trans hpiece⟩

end Scratch

end NextRelease
