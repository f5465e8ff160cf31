import Scoping.Proofs.Reading

namespace Scoping

namespace Text

theorem not_mem_of_mem_splitOn {c : Char} {text piece : List Char}
    (h : piece ∈ text.splitOn c) : c ∉ piece := by
  induction text generalizing piece with
  | nil =>
    rw [List.splitOn_nil, List.mem_singleton] at h
    rw [h]
    exact List.not_mem_nil
  | cons head text ih =>
    rw [List.splitOn_cons_eq_if_modifyHead] at h
    split at h
    · rcases List.mem_cons.mp h with rfl | hlater
      · exact List.not_mem_nil
      · exact ih hlater
    · next hhead =>
      obtain ⟨first, later, hpieces⟩ := List.exists_cons_of_ne_nil (List.splitOn_ne_nil c text)
      rw [hpieces, List.modifyHead_cons] at h
      rcases List.mem_cons.mp h with rfl | hlater
      · have hne : c ≠ head := fun heq => hhead (beq_iff_eq.mpr heq.symm)
        have hfirst : c ∉ first := ih (by rw [hpieces]; exact List.mem_cons_self)
        exact List.not_mem_cons_of_ne_of_not_mem hne hfirst
      · apply ih
        rw [hpieces]
        exact List.mem_cons_of_mem first hlater

/-- Exchanging a piece between line feeds leaves the others as they are. -/
theorem splitOn_intercalate_set (text : List Char) (position : Nat) {piece : List Char}
    (noFeed : '\n' ∉ piece) :
    (['\n'].intercalate ((text.splitOn '\n').set position piece)).splitOn '\n' =
      (text.splitOn '\n').set position piece := by
  apply List.splitOn_intercalate
  · intro other hother
    rcases List.mem_or_eq_of_mem_set hother with hother | rfl
    · exact not_mem_of_mem_splitOn hother
    · exact noFeed
  · rw [Ne, List.set_eq_nil_iff]
    exact List.splitOn_ne_nil '\n' text

theorem mem_of_mem_dropReturn {line : List Char} {c : Char} (h : c ∈ dropReturn line) :
    c ∈ line := by
  unfold dropReturn at h
  split at h
  · exact List.dropLast_subset line h
  · exact h

/-- What is put in the place of a piece makes one line of the same characters, at most without a
carriage return, or it leaves the text one line shorter at the end. -/
theorem linesOfPieces_set {pieces before after : List (List Char)} {line : List Char}
    (h : linesOfPieces pieces = before ++ line :: after) (piece : List Char) :
    (∃ kept, linesOfPieces (pieces.set before.length piece) = before ++ kept :: after ∧
      ∀ c ∈ kept, c ∈ piece) ∨
    (after = [] ∧ linesOfPieces (pieces.set before.length piece) = before) := by
  -- On the lines in front: they are the pieces in front, each of which ended at a line feed.
  induction before generalizing pieces with
  | nil =>
    rcases pieces with _ | ⟨first, _ | ⟨next, later⟩⟩
    · simp [linesOfPieces] at h
    · have hafter : after = [] := by
        rw [linesOfPieces] at h
        split at h
        · simp at h
        · exact (List.cons.inj h).2.symm
      -- The last piece: without characters it is no line at all.
      rw [hafter, List.length_nil, List.set_cons_zero, linesOfPieces]
      split
      · exact Or.inr ⟨rfl, rfl⟩
      · exact Or.inl ⟨piece, rfl, fun c hc => hc⟩
    · have hafter : linesOfPieces (next :: later) = after := by
        rw [linesOfPieces] at h
        exact (List.cons.inj h).2
      refine Or.inl ⟨dropReturn piece, ?_, fun c hc => mem_of_mem_dropReturn hc⟩
      rw [List.length_nil, List.set_cons_zero, linesOfPieces, hafter, List.nil_append]
  | cons first before ih =>
    rcases pieces with _ | ⟨head, _ | ⟨next, later⟩⟩
    · simp [linesOfPieces] at h
    · rw [linesOfPieces] at h
      split at h <;> simp at h
    · rw [linesOfPieces] at h
      obtain ⟨hhead, hlater⟩ := List.cons.inj h
      have hne : (next :: later).set before.length piece ≠ [] := by
        rw [Ne, List.set_eq_nil_iff]
        exact List.cons_ne_nil next later
      rw [List.length_cons, List.set_cons_succ, linesOfPieces_cons head hne, hhead]
      rcases ih hlater with ⟨kept, hkept, hmem⟩ | ⟨hafter, hset⟩
      · exact Or.inl ⟨kept, by rw [hkept]; rfl, hmem⟩
      · exact Or.inr ⟨hafter, by rw [hset]⟩

end Text

namespace Script

/-- The script with another text in place of a line. Lines are counted from 1. -/
def replaceLine (source : String) (number : Nat) (text : String) : String :=
  String.ofList
    (['\n'].intercalate ((source.toList.splitOn '\n').set (number - 1) text.toList))

theorem sourceLines_replaceLine {source text : String} {before after : List String}
    (lines : sourceLines source = before ++ text :: after) {other : String}
    (noFeed : '\n' ∉ other.toList) :
    (∃ kept, sourceLines (replaceLine source (before.length + 1) other) = before ++ kept :: after ∧
      ∀ c ∈ kept.toList, c ∈ other.toList) ∨
    (after = [] ∧ sourceLines (replaceLine source (before.length + 1) other) = before) := by
  obtain ⟨first, rest, hpieces, rfl, hrest⟩ := List.map_eq_append_iff.mp lines
  obtain ⟨line, later, rfl, rfl, rfl⟩ := List.map_eq_cons_iff.mp hrest
  have hsplit : (replaceLine source (first.length + 1) other).toList.splitOn '\n' =
      (source.toList.splitOn '\n').set first.length other.toList := by
    rw [replaceLine, String.toList_ofList, Nat.add_sub_cancel]
    exact Text.splitOn_intercalate_set _ _ noFeed
  rw [List.length_map, sourceLines, Text.lines, hsplit]
  rcases Text.linesOfPieces_set hpieces other.toList with ⟨kept, hkept, hmem⟩ | ⟨hlater, hset⟩
  · refine Or.inl ⟨String.ofList kept, ?_, ?_⟩
    · rw [hkept, List.map_append, List.map_cons]
    · rwa [String.toList_ofList]
  · exact Or.inr ⟨by rw [hlater]; rfl, by rw [hset]⟩

end Script

end Scoping
