import DevnetChaos.Proofs.Document.JsonRoundTrip
import DevnetChaos.Proofs.Schema.Network
import DevnetChaos.Schema.Suite

/-!
# Artifacts that are written and read

What is written of artifacts is read as the same artifacts: the labels of pods, the phases that are
left out and the verdicts inside.  No number is written, so the text is read like the tree.

Main results:

- `PodUnderTest.reads_toTree`, `PodVerdict.reads_toTree`, `Artifact.reads_toTree`: what is written
  is read.
- `Artifact.ofJson_pretty`: artifacts come back from their text.
-/

namespace DevnetChaos

open Decoder Record

/-! ## Trees -/

/-- A pod under test is read back from its tree. -/
theorem PodUnderTest.reads_toTree (p : PodUnderTest) : PodUnderTest.decode.Reads p.toTree p := by
  refine reads_record ?_ (by decide)
  exact .required (reads_text _) <| .withDefault p.labels.reads_toTree <|
    .required (reads_bool _) .done

/-- A verdict is read back from its tree. -/
theorem PodVerdict.reads_toTree (v : PodVerdict) : PodVerdict.decode.Reads v.toTree v := by
  rw [toTree]
  simp only [List.cons_append, List.nil_append]
  refine reads_record ?_ (by decide)
  exact .required (reads_text _) <| .required (reads_bool _) <| .text rfl <|
    .required (reads_text _) <| .required (reads_bool _) .done

/-- An artifact is read from what is written of it. -/
theorem Artifact.reads_toTree (a : Artifact) : Artifact.decode.Reads a.toTree a := by
  refine reads_record ?_ (by decide)
  exact .required (reads_text _) <| .required (reads_bool _) <|
    .required (reads_list fun v _ => v.reads_toTree) <|
    .required (reads_list fun p _ => p.reads_toTree) .done

/-! ## Texts -/

theorem Labels.hasNoNumbers_toTree (labels : Labels) : labels.toTree.hasNoNumbers = true := by
  simp only [toTree, Tree.hasNoNumbers, Tree.entriesHaveNoNumbers_iff, List.forall_mem_map]
  exact fun _ _ => trivial

theorem PodUnderTest.hasNoNumbers_toTree (p : PodUnderTest) : p.toTree.hasNoNumbers = true := by
  simp [toTree, Tree.hasNoNumbers, p.labels.hasNoNumbers_toTree]

theorem PodVerdict.hasNoNumbers_toTree (v : PodVerdict) : v.toTree.hasNoNumbers = true := by
  cases h : v.phase <;> simp [toTree, textEntry, Tree.optional, Tree.hasNoNumbers, h]

/-- No tree of an artifact holds a number. -/
theorem Artifact.hasNoNumbers_toTree (a : Artifact) : a.toTree.hasNoNumbers = true := by
  simp [toTree, Tree.hasNoNumbers, PodVerdict.hasNoNumbers_toTree,
    PodUnderTest.hasNoNumbers_toTree]

/-- Artifacts come back from the text that is written of them. -/
theorem Artifact.ofJson_pretty (artifacts : List Artifact) :
    Artifact.decodeList.ofJson (Json.pretty (listTree artifacts)) = .ok artifacts := by
  refine Reads.ofJson (reads_list fun a _ => a.reads_toTree) ?_
  simp [listTree, Tree.hasNoNumbers, hasNoNumbers_toTree]

end DevnetChaos
