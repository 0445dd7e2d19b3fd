import AtmosChem.Text.Cut

/-!
# Cuts in texts put together from parts

Where a text is put together from parts, the first place of a separator lies in the first part that
has one.  For a single character this is immediate.  A word of several characters could also begin
in one part and end in the next; it cannot if the parts are kept apart by a character that is not in
the word (`isPrefixOf_append_cons`, `cutAtWord_append_cons`).
-/

namespace AtmosChem.Text

/-! ### Characters -/

/-- A part without the character moves the cut into the rest. -/
theorem cutAt_append_of_not_mem {c : Char} {a : List Char} (h : c ∉ a) (b : List Char) :
    cutAt c (a ++ b) = (cutAt c b).map fun p => (a ++ p.1, p.2) := by
  induction a with
  | nil => simp
  | cons x a ih =>
    rw [List.mem_cons, not_or] at h
    rw [List.cons_append, cutAt, if_neg (Ne.symm h.1), ih h.2, Option.map_map]
    rfl

theorem not_mem_of_cutAt {c : Char} {s a b : List Char} (h : cutAt c s = some (a, b)) : c ∉ a := by
  induction s generalizing a b with
  | nil => simp [cutAt] at h
  | cons x s ih =>
    rw [cutAt] at h
    split at h
    · simp only [Option.some.injEq, Prod.mk.injEq] at h
      rw [← h.1]
      exact List.not_mem_nil
    next hx =>
      obtain ⟨⟨a', b'⟩, h', he⟩ := Option.map_eq_some_iff.1 h
      simp only [Prod.mk.injEq] at he
      rw [← he.1, List.mem_cons, not_or]
      exact ⟨Ne.symm hx, ih h'⟩

theorem cutAt_append_of_eq_some {c : Char} {s a b : List Char} (h : cutAt c s = some (a, b))
    (t : List Char) : cutAt c (s ++ t) = some (a, b ++ t) := by
  rw [eq_append_of_cutAt h, List.append_assoc, List.cons_append, cutAt_append (not_mem_of_cutAt h)]

theorem before_append_of_not_mem {c : Char} {a : List Char} (h : c ∉ a) (b : List Char) :
    before c (a ++ b) = a ++ before c b := by
  rw [before, cutAt_append_of_not_mem h, before]
  cases cutAt c b with
  | none => rfl
  | some p => rfl

theorem before_eq_or (c : Char) (s : List Char) :
    before c s = s ∨ ∃ t, s = before c s ++ c :: t := by
  cases h : cutAt c s with
  | none => exact Or.inl (before_of_not_mem (cutAt_eq_none_iff.1 h))
  | some p =>
    refine Or.inr ⟨p.2, ?_⟩
    rw [before, h]
    exact eq_append_of_cutAt h

theorem not_mem_before (c : Char) (s : List Char) : c ∉ before c s := by
  cases h : cutAt c s with
  | none => rw [before_of_not_mem (cutAt_eq_none_iff.1 h)]; exact cutAt_eq_none_iff.1 h
  | some p => rw [before, h]; exact not_mem_of_cutAt h

theorem mem_of_mem_before {c d : Char} {s : List Char} (h : d ∈ before c s) : d ∈ s := by
  rcases before_eq_or c s with he | ⟨t, he⟩
  · rwa [he] at h
  · rw [he]
    exact List.mem_append_left _ h

/-! ### Words -/

/-- The text is put together again from the two parts and the word. -/
theorem eq_append_of_cutAtWord {w s a b : List Char} (h : cutAtWord w s = some (a, b)) :
    s = a ++ w ++ b := by
  induction s generalizing a b with
  | nil =>
    rw [cutAtWord] at h
    split at h
    next hw =>
      obtain ⟨rfl, rfl⟩ := Prod.mk.inj (Option.some.inj h)
      rw [hw]
      rfl
    · simp at h
  | cons x s ih =>
    rw [cutAtWord] at h
    split at h
    next hp =>
      obtain ⟨rfl, rfl⟩ := Prod.mk.inj (Option.some.inj h)
      obtain ⟨rest, hrest⟩ := List.isPrefixOf_iff_prefix.1 hp
      rw [← hrest, List.drop_left, List.nil_append]
    · obtain ⟨⟨a', b'⟩, h', he⟩ := Option.map_eq_some_iff.1 h
      obtain ⟨rfl, rfl⟩ := Prod.mk.inj he
      rw [ih h']
      rfl

/-- A text that lacks a character of the word is not cut. -/
theorem cutAtWord_eq_none {w s : List Char} {c : Char} (hw : c ∈ w) (hs : c ∉ s) :
    cutAtWord w s = none := by
  cases h : cutAtWord w s with
  | none => rfl
  | some p =>
    refine absurd ?_ hs
    rw [eq_append_of_cutAtWord h]
    simp [hw]

/-- **A word does not reach over a character that is not in it.** -/
theorem isPrefixOf_append_cons {w : List Char} {c : Char} (hc : c ∉ w) (a b : List Char) :
    w.isPrefixOf (a ++ c :: b) = w.isPrefixOf a := by
  induction a generalizing w with
  | nil =>
    cases w with
    | nil => rfl
    | cons x w =>
      have hx : (x == c) = false := by
        rw [beq_eq_false_iff_ne]
        intro he
        exact hc (he ▸ List.mem_cons_self)
      simp only [List.nil_append, List.isPrefixOf, hx, Bool.false_and]
  | cons y a ih =>
    cases w with
    | nil => rfl
    | cons x w =>
      rw [List.cons_append, List.isPrefixOf, List.isPrefixOf,
        ih fun hm => hc (List.mem_cons_of_mem x hm)]

/-- Past a part without the word and a character that is not in it, the cut is in the rest. -/
theorem cutAtWord_append_cons {w a : List Char} {c : Char} (hc : c ∉ w) (hw : w ≠ [])
    (ha : cutAtWord w a = none) (b : List Char) :
    cutAtWord w (a ++ c :: b) = (cutAtWord w b).map fun p => (a ++ c :: p.1, p.2) := by
  induction a with
  | nil =>
    have hp : w.isPrefixOf (c :: b) = false := by
      rw [← List.nil_append (c :: b), isPrefixOf_append_cons hc]
      cases w with
      | nil => exact absurd rfl hw
      | cons x w => rfl
    rw [List.nil_append, cutAtWord, if_neg (by rw [hp]; decide)]
    rfl
  | cons x a ih =>
    rw [cutAtWord] at ha
    split at ha
    · simp at ha
    next hp =>
      have ha' : cutAtWord w a = none := by simpa using ha
      rw [List.cons_append, cutAtWord, ← List.cons_append, isPrefixOf_append_cons hc, if_neg hp,
        ih ha', Option.map_map]
      rfl

/-- A part without the first character of the word moves the cut into the rest. -/
theorem cutAtWord_append_of_not_mem {x : Char} {a : List Char} (h : x ∉ a) (w b : List Char) :
    cutAtWord (x :: w) (a ++ b) = (cutAtWord (x :: w) b).map fun p => (a ++ p.1, p.2) := by
  induction a with
  | nil => simp
  | cons y a ih =>
    rw [List.mem_cons, not_or] at h
    have hp : (x :: w).isPrefixOf (y :: (a ++ b)) = false := by
      rw [List.isPrefixOf, beq_eq_false_iff_ne.2 h.1, Bool.false_and]
    rw [List.cons_append, cutAtWord, if_neg (by rw [hp]; decide), ih h.2, Option.map_map]
    rfl

/-- Behind a part without the word, characters that are not in the word make none. -/
theorem cutAtWord_append_eq_none {x : Char} {w a b : List Char}
    (ha : cutAtWord (x :: w) a = none) (hb : ∀ c ∈ b, c ∉ x :: w) :
    cutAtWord (x :: w) (a ++ b) = none := by
  cases b with
  | nil => rwa [List.append_nil]
  | cons c b =>
    have hx : x ∉ b := fun hm => hb x (List.mem_cons_of_mem c hm) List.mem_cons_self
    rw [cutAtWord_append_cons (hb c List.mem_cons_self) (List.cons_ne_nil x w) ha,
      cutAtWord_eq_none List.mem_cons_self hx]
    rfl

theorem cutAtWord_eq_none_of_append {w : List Char} (a : List Char) {b : List Char}
    (h : cutAtWord w (a ++ b) = none) : cutAtWord w b = none := by
  induction a with
  | nil => exact h
  | cons x a ih =>
    rw [List.cons_append, cutAtWord] at h
    split at h
    · simp at h
    · exact ih (by simpa using h)

theorem cutAtWord_word_append {w : List Char} (hw : w ≠ []) (b : List Char) :
    cutAtWord w (w ++ b) = some ([], b) := by
  cases w with
  | nil => exact absurd rfl hw
  | cons x w =>
    have hp : (x :: w).isPrefixOf (x :: (w ++ b)) = true := by
      rw [List.isPrefixOf_iff_prefix, ← List.cons_append]
      exact List.prefix_append _ b
    rw [List.cons_append, cutAtWord, if_pos hp, ← List.cons_append, List.drop_left]

/-- A word of two different characters is cut off behind a part without it: the part's end and the
word's beginning make no earlier one. -/
theorem cutAtWord_pair_append {x y : Char} (hxy : x ≠ y) {a : List Char}
    (h : cutAtWord [x, y] a = none) (b : List Char) :
    cutAtWord [x, y] (a ++ x :: y :: b) = some (a, b) := by
  induction a with
  | nil => exact cutAtWord_word_append (List.cons_ne_nil x [y]) b
  | cons z a ih =>
    rw [cutAtWord] at h
    split at h
    · simp at h
    next hp =>
      have hnp : ¬ [x, y].isPrefixOf (z :: (a ++ x :: y :: b)) = true := by
        cases a with
        | nil => simp [List.isPrefixOf, Ne.symm hxy]
        | cons u a => simpa [List.isPrefixOf] using hp
      rw [List.cons_append, cutAtWord, if_neg hnp, ih (by simpa using h)]
      rfl

theorem length_le_of_cutAtWord {w s a b : List Char} (h : cutAtWord w s = some (a, b)) :
    w.length ≤ s.length := by
  rw [eq_append_of_cutAtWord h, List.length_append, List.length_append]
  omega

theorem cutAtWord_append_of_eq_some {w s a b : List Char} (h : cutAtWord w s = some (a, b))
    (hw : w ≠ []) (t : List Char) : cutAtWord w (s ++ t) = some (a, b ++ t) := by
  induction s generalizing a b with
  | nil => simp [cutAtWord, hw] at h
  | cons x s ih =>
    have hl := length_le_of_cutAtWord h
    rw [cutAtWord] at h
    rw [List.cons_append, cutAtWord, ← List.cons_append]
    split at h
    next hp =>
      have hpre := List.isPrefixOf_iff_prefix.1 hp
      simp only [Option.some.injEq, Prod.mk.injEq] at h
      rw [if_pos (List.isPrefixOf_iff_prefix.2 (hpre.trans (List.prefix_append _ t))),
        List.drop_append_of_le_length hl, ← h.1, ← h.2]
    next hp =>
      have hnp : ¬ w.isPrefixOf (x :: s ++ t) = true := by
        intro hq
        refine hp (List.isPrefixOf_iff_prefix.2 ?_)
        exact List.prefix_of_prefix_length_le (List.isPrefixOf_iff_prefix.1 hq)
          (List.prefix_append _ t) hl
      obtain ⟨⟨a', b'⟩, h', he⟩ := Option.map_eq_some_iff.1 h
      simp only [Prod.mk.injEq] at he
      rw [if_neg hnp, ih h', ← he.1, ← he.2]
      rfl

theorem occurs_eq_false_iff {w s : List Char} : occurs w s = false ↔ cutAtWord w s = none := by
  rw [occurs, Option.isSome_eq_false_iff, Option.isNone_iff_eq_none]

theorem occurs_eq_false {w s : List Char} {c : Char} (hw : c ∈ w) (hs : c ∉ s) :
    occurs w s = false := by
  rw [occurs_eq_false_iff, cutAtWord_eq_none hw hs]

/-- A word stands in a text if the text is made of the word and something around it. -/
theorem occurs_iff_infix {w : List Char} (hw : w ≠ []) (s : List Char) :
    occurs w s = true ↔ w <:+: s := by
  constructor
  · intro h
    obtain ⟨p, hp⟩ := Option.isSome_iff_exists.1 h
    exact ⟨p.1, p.2, (eq_append_of_cutAtWord hp).symm⟩
  · rintro ⟨a, b, rfl⟩
    rw [← Bool.not_eq_false, occurs_eq_false_iff, List.append_assoc]
    intro hnone
    have hrest := cutAtWord_eq_none_of_append a hnone
    rw [cutAtWord_word_append hw] at hrest
    exact absurd hrest (Option.some_ne_none _)

/-- **Characters that are not in a word** make no difference around a text. -/
theorem occurs_pad {x : Char} {w lead trail : List Char} (hl : x ∉ lead)
    (ht : ∀ c ∈ trail, c ∉ x :: w) (s : List Char) :
    occurs (x :: w) (lead ++ s ++ trail) = occurs (x :: w) s := by
  rw [occurs, occurs, List.append_assoc, cutAtWord_append_of_not_mem hl, Option.isSome_map]
  cases hs : cutAtWord (x :: w) s with
  | some p => rw [cutAtWord_append_of_eq_some hs (List.cons_ne_nil x w)]; rfl
  | none => rw [cutAtWord_append_eq_none hs ht]

/-! ### Parts with a separator between them -/

theorem splitOn_of_not_mem {c : Char} {s : List Char} (h : c ∉ s) : s.splitOn c = [s] := by
  refine List.splitOnP_eq_singleton ?_
  intro d hd
  rw [beq_eq_false_iff_ne]
  rintro rfl
  exact h hd

theorem splitOn_append_cons (c : Char) (a b : List Char) :
    (a ++ c :: b).splitOn c = a.splitOn c ++ b.splitOn c :=
  List.splitOnP_append_cons a b (beq_self_eq_true c)

theorem before_intercalate_cons {c : Char} {s : List Char} (h : c ∉ s) (parts : List (List Char)) :
    before c ([c].intercalate (s :: parts)) = s := by
  cases parts with
  | nil => rw [List.intercalate_singleton, before_of_not_mem h]
  | cons t parts =>
    rw [List.intercalate_cons_cons, List.append_assoc, List.singleton_append, before_append h]

theorem not_mem_intercalate {c : Char} {separator : List Char} {parts : List (List Char)}
    (hc : c ∉ separator) (h : ∀ s ∈ parts, c ∉ s) : c ∉ separator.intercalate parts := by
  induction parts with
  | nil => simp
  | cons s parts ih =>
    have hs := h s List.mem_cons_self
    cases parts with
    | nil => rwa [List.intercalate_singleton]
    | cons t parts =>
      rw [List.intercalate_cons_cons, List.mem_append, List.mem_append, not_or, not_or]
      exact ⟨⟨hs, hc⟩, ih fun u hu => h u (List.mem_cons_of_mem s hu)⟩

end AtmosChem.Text
