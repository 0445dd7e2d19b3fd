import AtmosChem.Proofs.Cutting
import AtmosChem.Proofs.Trimming

/-!
# Texts made of lines

A text is read line by line, and of every line only what stands between its outer blanks.  So a text
is as good as any other one that **consists** of the same lines, however their ends are written and
whatever blanks stand around them.

* `unlines`: lines as a text.
* `Consists`, `consists_unlines`: the lines that a text consists of, and a text for any lines.
-/

namespace AtmosChem.Text

/-- Lines as a text, a line feed at the end of each. -/
def unlines (ls : List (List Char)) : List Char := ls.flatMap fun line => line ++ ['\n']

/-- Whether a text consists of lines, their outer blanks aside. -/
def Consists (text : List Char) (ls : List (List Char)) : Prop :=
  (lines text).map trim = ls.map trim

instance (text : List Char) (ls : List (List Char)) : Decidable (Consists text ls) :=
  inferInstanceAs (Decidable ((lines text).map trim = ls.map trim))

theorem consists_lines (text : List Char) : Consists text (lines text) := rfl

/-! ### Lines of a text -/

theorem not_mem_of_mem_splitOn {c : Char} {s w : List Char} (h : w ∈ s.splitOn c) : c ∉ w := by
  induction s generalizing w with
  | nil =>
    rw [List.splitOn_nil, List.mem_singleton] at h
    rw [h]
    exact List.not_mem_nil
  | cons x s ih =>
    rw [List.splitOn_cons_eq_if_modifyHead] at h
    split at h
    · rcases List.mem_cons.1 h with rfl | h
      · exact List.not_mem_nil
      · exact ih h
    next hx =>
      cases hs : s.splitOn c with
      | nil => exact absurd hs (List.splitOn_ne_nil c s)
      | cons first rest =>
        rw [hs, List.modifyHead_cons] at h
        rcases List.mem_cons.1 h with rfl | h
        · have hfirst : c ∉ first := ih (by rw [hs]; exact List.mem_cons_self)
          rw [List.mem_cons, not_or]
          exact ⟨fun he => hx (by rw [he, beq_self_eq_true]), hfirst⟩
        · exact ih (by rw [hs]; exact List.mem_cons_of_mem first h)

theorem mem_of_mem_dropReturn {c : Char} {line : List Char} (h : c ∈ dropReturn line) :
    c ∈ line := by
  rw [dropReturn] at h
  split at h
  · exact List.dropLast_subset line h
  · exact h

theorem exists_piece_of_mem_linesOfPieces {line : List Char} {pieces : List (List Char)}
    (h : line ∈ linesOfPieces pieces) : ∃ piece ∈ pieces, ∀ c ∈ line, c ∈ piece := by
  fun_induction linesOfPieces pieces with
  | case1 => simp at h
  | case2 => simp at h
  | case3 last hlast =>
    rw [List.mem_singleton] at h
    exact ⟨last, List.mem_singleton_self last, fun c hc => h ▸ hc⟩
  | case4 first next rest ih =>
    rcases List.mem_cons.1 h with rfl | h
    · exact ⟨first, List.mem_cons_self, fun c hc => mem_of_mem_dropReturn hc⟩
    · obtain ⟨piece, hp, hc⟩ := ih h
      exact ⟨piece, List.mem_cons_of_mem first hp, hc⟩

/-- **A line has no line feed.** -/
theorem not_mem_of_mem_lines {text line : List Char} (h : line ∈ lines text) : '\n' ∉ line := by
  obtain ⟨piece, hp, hc⟩ := exists_piece_of_mem_linesOfPieces h
  exact fun hn => not_mem_of_mem_splitOn hp (hc _ hn)

/-! ### A text for lines -/

theorem trim_dropReturn (line : List Char) : trim (dropReturn line) = trim line := by
  rw [dropReturn]
  split
  next h =>
    obtain ⟨front, rfl⟩ := List.getLast?_eq_some_iff.1 h
    have hreturn : ∀ c ∈ ['\r'], isBlank c = true := forall_mem_of_all (by decide)
    have hpad := trim_pad isBlank_of_mem_nil hreturn front
    rw [List.nil_append] at hpad
    rw [List.dropLast_concat, hpad]
  next => rfl

theorem lines_append_cons {line : List Char} (h : '\n' ∉ line) (rest : List Char) :
    lines (line ++ '\n' :: rest) = dropReturn line :: lines rest := by
  rw [lines, splitOn_append_cons, splitOn_of_not_mem h, lines]
  cases hs : rest.splitOn '\n' with
  | nil => exact absurd hs (List.splitOn_ne_nil '\n' rest)
  | cons next pieces => rfl

/-- **Lines without line feeds** are what their text consists of. -/
theorem consists_unlines {ls : List (List Char)} (h : ∀ line ∈ ls, '\n' ∉ line) :
    Consists (unlines ls) ls := by
  induction ls with
  | nil => rfl
  | cons line ls ih =>
    rw [List.forall_mem_cons] at h
    have hrest : (lines (unlines ls)).map trim = ls.map trim := ih h.2
    have hline : unlines (line :: ls) = line ++ '\n' :: unlines ls := by simp [unlines]
    rw [Consists, hline, lines_append_cons h.1, List.map_cons, List.map_cons, trim_dropReturn,
      hrest]

end AtmosChem.Text
