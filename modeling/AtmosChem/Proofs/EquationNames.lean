import AtmosChem.Proofs.Contributions
import AtmosChem.Proofs.MozartBlocks
import AtmosChem.Proofs.RepeatedNames

/-!
# The names of equations of MOZART

An equation is named after the label of its block and its place there, or after its place in the
preamble.  Such a name tells both: the place is what stands in the last parentheses, even if the
label itself looks like a name.

* `labelAt_some_inj`, `labelAt_none_ne_some`: the names tell where an equation stands.
* `nodup_lineLabels`: they are different if the labels of the blocks are.
* `translate_names`: the names of the reactions and of the rejected equations of a section.
-/

namespace AtmosChem.Mozart

open Text
open Decimal (digitChar decimalText digitsOf digit? digit?_digitChar digitsOf_injective)

/-! ### Names -/

theorem not_mem_decimalText {c : Char} (h : digit? c = none) (n : Nat) : c ∉ decimalText n := by
  intro hc
  obtain ⟨d, -, rfl⟩ := List.mem_map.1 hc
  rw [digit?_digitChar] at h
  exact absurd h (Option.some_ne_none d)

theorem digitChar_injective : Function.Injective digitChar := by
  intro d e h
  have hread := congrArg digit? h
  rw [digit?_digitChar, digit?_digitChar] at hread
  exact Option.some.inj hread

theorem decimalText_injective : Function.Injective decimalText := by
  intro m n h
  exact digitsOf_injective (List.map_injective_iff.2 digitChar_injective h)

theorem labelAt_none_injective : Function.Injective (labelAt none) := by
  intro m n h
  exact decimalText_injective (List.cons.inj h).2

/-- **A name in a block tells the label and the place.**  Read from its end, the place stands before
the first opening parenthesis. -/
theorem labelAt_some_inj {a b : List Char} {m n : Nat}
    (h : labelAt (some a) m = labelAt (some b) n) : a = b ∧ m = n := by
  have hnot : ∀ k, '(' ∉ (decimalText k).reverse := by
    intro k hk
    exact not_mem_decimalText (by decide) k (List.mem_reverse.1 hk)
  have hcut : ∀ (label : List Char) k, cutAt '(' (labelAt (some label) k).reverse.tail =
      some ((decimalText k).reverse, ' ' :: label.reverse) := by
    intro label k
    have hreverse : (labelAt (some label) k).reverse =
        ')' :: ((decimalText k).reverse ++ '(' :: ' ' :: label.reverse) := by
      simp [labelAt]
    rw [hreverse, List.tail_cons]
    exact cutAt_append (hnot k)
  have hsame := congrArg (fun s => cutAt '(' s.reverse.tail) h
  simp only [hcut, Option.some.injEq, Prod.mk.injEq, List.cons.injEq, true_and,
    List.reverse_inj] at hsame
  exact ⟨hsame.2, decimalText_injective hsame.1⟩

/-- **A name in the preamble is none in a block**: it has no parenthesis. -/
theorem labelAt_none_ne_some (label : List Char) (m n : Nat) :
    labelAt none m ≠ labelAt (some label) n := by
  intro h
  have hmem : ')' ∈ labelAt none m := by
    rw [h, labelAt]
    simp
  rcases List.mem_cons.1 hmem with hR | hdigits
  · exact absurd hR (by decide)
  · exact not_mem_decimalText (by decide) m hdigits

theorem labelAt_injective (open? : Option (List Char)) : Function.Injective (labelAt open?) := by
  cases open? with
  | none => exact labelAt_none_injective
  | some label =>
    intro m n h
    exact (labelAt_some_inj h).2

theorem nodup_firstLabels (open? : Option (List Char)) (count : Nat) :
    (firstLabels open? count).Nodup :=
  List.Nodup.map (labelAt_injective open?) List.nodup_range'

/-- **The names of a section are different** if the labels of its blocks are. -/
theorem nodup_lineLabels {lines : List (List Char)}
    (h : ((blocks lines).map LineBlock.label).Nodup) : (lineLabels lines).Nodup := by
  refine List.nodup_append'.2 ⟨nodup_firstLabels none _, ?_, ?_⟩
  · refine List.nodup_flatMap.2 ⟨fun b _ => nodup_firstLabels _ _, ?_⟩
    refine (List.pairwise_map.1 h).imp ?_
    intro a b hne name ha hb
    obtain ⟨m, -, rfl⟩ := List.mem_map.1 ha
    obtain ⟨n, -, hn⟩ := List.mem_map.1 hb
    exact hne (labelAt_some_inj hn).1.symm
  · intro name hpreamble hblocks
    obtain ⟨m, -, rfl⟩ := List.mem_map.1 hpreamble
    obtain ⟨b, -, hb⟩ := List.mem_flatMap.1 hblocks
    obtain ⟨n, -, hn⟩ := List.mem_map.1 hb
    exact labelAt_none_ne_some b.label m n hn.symm

end Mozart

/-! ### Reactions and rejected equations -/

/-- What is no pair gives its label once, as a name or as a label. -/
theorem MakeUp.perm {cs : List Contribution} {t : Translation} (h : MakeUp cs t)
    (hpair : ∀ c ∈ cs, c.isPair = false) :
    (t.reactions.map Reaction.name ++ t.unknowns).Perm (cs.map Contribution.label) := by
  rw [h.reactions, h.unknowns, List.map_flatMap]
  clear h
  induction cs with
  | nil => exact .refl _
  | cons c cs ih =>
    have ih := ih fun c' hc' => hpair c' (List.mem_cons_of_mem c hc')
    rw [List.flatMap_cons, List.flatMap_cons, List.map_cons]
    cases c with
    | reaction label law sides => exact ih.cons label
    | pair label first second sides =>
      have hno := hpair _ List.mem_cons_self
      simp [Contribution.isPair] at hno
    | rejected label => exact List.perm_middle.trans (ih.cons label)

namespace Mozart

/-- **The names of a section are different if the labels of its blocks are.**  The equations of a
section that is translated are its arrow lines.  Those of the preamble are named `R1`, `R2` and so
on; those of each block, and there is at least one, after the label of the block and their place in
it.  Each name is that of one reaction or of one rejected equation.

If the labels of the blocks are different from one another, then so are all names: no name is
repeated in a mechanism with these reactions, and no rejected equation is named like a reaction. -/
theorem translate_names {lines : List (List Char)} {t : Translation}
    (h : (translate lines).outcome = .ok t) :
    ∃ (es : List SubEquation) (cs : List Contribution),
      collect lines = .ok es ∧
      es.map SubEquation.reactants = ((lines.map clean).filter isArrowLine).map leftOf ∧
      es.map SubEquation.label =
        firstLabels none (arrowCount (preamble (lines.map clean))) ++
          (blocks (lines.map clean)).flatMap
            (fun b => firstLabels (some b.label) (arrowCount b.lines)) ∧
      (∀ b ∈ blocks (lines.map clean), 1 ≤ arrowCount b.lines) ∧
      cs.map Contribution.label = es.map (fun e => String.ofList e.label) ∧
      (∀ c ∈ cs, c.isPair = false) ∧
      MakeUp cs t ∧
      (((blocks (lines.map clean)).map LineBlock.label).Nodup →
        (es.map SubEquation.label).Nodup ∧
        (∀ m : Mechanism, m.reactions = t.reactions → m.repeatedNames = []) ∧
        ∀ label ∈ t.unknowns, label ∉ t.reactions.map Reaction.name) := by
  obtain ⟨es, cs, hes, -, hlefts, hcs, -, hpair, hmake⟩ := exists_contributions h
  have hlabels := labels_collect hes
  refine ⟨es, cs, hes, hlefts, hlabels, (complete_of_collect hes).counted, hcs, hpair, hmake, ?_⟩
  intro hblocks
  have hnodup : (es.map SubEquation.label).Nodup := by
    rw [hlabels]
    exact nodup_lineLabels hblocks
  have hnames : (t.reactions.map Reaction.name ++ t.unknowns).Nodup := by
    have hmap : es.map (fun e => String.ofList e.label) =
        (es.map SubEquation.label).map String.ofList := by
      rw [List.map_map]
      rfl
    rw [(hmake.perm hpair).nodup_iff, hcs, hmap]
    exact hnodup.map fun _ _ => String.ofList_injective
  obtain ⟨hreactions, -, hdisjoint⟩ := List.nodup_append'.1 hnames
  refine ⟨hnodup, ?_, fun label hu hr => hdisjoint hr hu⟩
  intro m hm
  rwa [Mechanism.repeatedNames_eq_nil_iff, hm]

/-- A section whose blocks have labels that look like names. -/
def lookalikeLines : List (List Char) :=
  ["NO + hv -> O3".toList, "[ x (1) ] NO -> O3".toList, "[x]".toList,
    "NO+hv -> O3 ! photolysis".toList, "NO -> O3".toList, "[R1] NO -> O3".toList]

/-- What becomes of it. -/
def lookalikeTranslation : Translation where
  reactions := [⟨"R1", .photolysis, sampleSides⟩, ⟨"x (1)", .photolysis, sampleSides⟩]
  unknowns := ["x (1) (1)", "x (2)", "R1 (1)"]

theorem translate_names_lookalike :
    (translate lookalikeLines).outcome = .ok lookalikeTranslation ∧
    ((blocks (lookalikeLines.map clean)).map LineBlock.label =
      ["x (1)".toList, "x".toList, "R1".toList]) ∧
    (∃ es : List SubEquation, collect lookalikeLines = .ok es ∧
      es.map SubEquation.label =
        ["R1".toList, "x (1) (1)".toList, "x (1)".toList, "x (2)".toList, "R1 (1)".toList]) ∧
    (∀ m : Mechanism, m.reactions = lookalikeTranslation.reactions → m.repeatedNames = []) := by
  have h : (translate lookalikeLines).outcome = .ok lookalikeTranslation := rfl
  have hblocks : (blocks (lookalikeLines.map clean)).map LineBlock.label =
      ["x (1)".toList, "x".toList, "R1".toList] := by decide +kernel
  obtain ⟨es, cs, hes, -, hlabels, -, -, -, -, hnames⟩ := translate_names h
  have hdistinct : ((blocks (lookalikeLines.map clean)).map LineBlock.label).Nodup := by
    rw [hblocks]
    decide
  exact ⟨h, hblocks, ⟨es, hes, hlabels.trans (by decide +kernel)⟩, (hnames hdistinct).2.1⟩

end Mozart

end AtmosChem
