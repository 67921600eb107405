import AudioHost.Discovery.Candidates
import AudioHost.Proofs.Files.Linked

/-!
What is listed. Each listed path leads to a file, and no two of them to the same one, so no two of
them are the same either.
-/

namespace AudioHost

namespace Candidates

variable {fs : LinkedSystem} {accepts : Name → Bool} {p : Path} {ps seen directories : List Path}

/-! ## What is reached first -/

theorem firstReached_of_seen (h : seen.any (fs.target p).same = true) :
    firstReached fs seen (p :: ps) = firstReached fs seen ps :=
  if_pos h

theorem firstReached_of_new (h : seen.any (fs.target p).same = false) :
    firstReached fs seen (p :: ps) = p :: firstReached fs (fs.target p :: seen) ps :=
  if_neg (Bool.not_eq_true _ ▸ h)

theorem firstReached_sublist (fs : LinkedSystem) (seen ps : List Path) :
    (firstReached fs seen ps).Sublist ps := by
  induction ps generalizing seen with
  | nil => exact .slnil
  | cons p ps ih =>
    cases hp : seen.any (fs.target p).same with
    | true =>
      rw [firstReached_of_seen hp]
      exact (ih seen).cons p
    | false =>
      rw [firstReached_of_new hp]
      exact (ih _).cons_cons p

theorem not_seen_of_mem (h : p ∈ firstReached fs seen ps) :
    seen.any (fs.target p).same = false := by
  induction ps generalizing seen with
  | nil => cases h
  | cons q ps ih =>
    cases hq : seen.any (fs.target q).same with
    | true => exact ih (firstReached_of_seen hq ▸ h)
    | false =>
      rw [firstReached_of_new hq] at h
      rcases List.mem_cons.mp h with rfl | h
      · exact hq
      · exact (Bool.or_eq_false_iff.mp (ih h)).2

theorem pairwise_firstReached (fs : LinkedSystem) (seen ps : List Path) :
    (firstReached fs seen ps).Pairwise fun p q => fs.sameFile p q = false := by
  induction ps generalizing seen with
  | nil => exact .nil
  | cons p ps ih =>
    cases hp : seen.any (fs.target p).same with
    | true =>
      rw [firstReached_of_seen hp]
      exact ih seen
    | false =>
      rw [firstReached_of_new hp, List.pairwise_cons]
      refine ⟨fun q hq => ?_, ih _⟩
      rw [fs.sameFile_comm]
      exact (Bool.or_eq_false_iff.mp (not_seen_of_mem hq)).1

/-! ## Files -/

theorem isFile_of_mem_list (h : p ∈ list fs directories accepts) : fs.isFile p = true := by
  obtain ⟨d, _, hp⟩ := List.mem_flatMap.mp ((firstReached_sublist fs _ _).mem h)
  exact (List.mem_filter.mp (List.mem_mergeSort.mp hp)).2

/-- Directories that have their files in order are gone through as they are. -/
theorem list_of_sorted
    (h : ∀ d ∈ directories, (found fs accepts d).Pairwise fun p q => p.le q = true) :
    list fs directories accepts = firstReached fs [] (directories.flatMap (found fs accepts)) := by
  have hmatching : directories.map (matching fs accepts) = directories.map (found fs accepts) :=
    List.map_congr_left fun d hd => List.mergeSort_of_pairwise (h d hd)
  rw [list, List.flatMap_def, hmatching, List.flatMap_def]

/-! ## Trees -/

variable {t : FileTree} {pattern : String}

theorem isFile_of_mem_ofPattern (h : p ∈ ofPattern t directories pattern) :
    t.isFile p = true := by
  unfold ofPattern at h
  split at h
  · exact isFile_of_mem_list h
  · cases h

/-- The candidates of directories that have their files in order. -/
theorem ofPattern_of_sorted {read : NamePattern} {listed : List Path}
    (hpattern : NamePattern.ofText? pattern = some read)
    (hsorted : ∀ d ∈ directories,
      (found t.linked read.matchesName d).Pairwise fun p q => p.le q = true)
    (hlisted : firstReached t.linked [] (directories.flatMap (found t.linked read.matchesName)) =
      listed) : ofPattern t directories pattern = listed := by
  rw [ofPattern, hpattern]
  exact (list_of_sorted hsorted).trans hlisted

/-- Paths of one file are not listed twice, and same paths lead to one file. -/
theorem apart_ofPattern (t : FileTree) (directories : List Path) (pattern : String) :
    (ofPattern t directories pattern).Pairwise fun p q => p.same q = false := by
  unfold ofPattern
  split
  · refine (pairwise_firstReached _ _ _).imp_of_mem fun {p q} hp hq hother => ?_
    refine Bool.eq_false_iff.mpr fun hsame => ?_
    rw [FileTree.sameFile_of_same (isFile_of_mem_list hp) (isFile_of_mem_list hq) hsame] at hother
    cases hother
  · exact .nil

theorem nodup_of_apart (h : ps.Pairwise fun p q => p.same q = false) : ps.Nodup := by
  refine h.imp fun hapart heq => ?_
  rw [heq, Path.same_refl] at hapart
  cases hapart

end Candidates

end AudioHost
