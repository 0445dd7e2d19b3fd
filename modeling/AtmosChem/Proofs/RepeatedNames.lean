import Mathlib.Data.List.Forall2
import Mathlib.Data.List.Induction
import Mathlib.Data.List.Nodup
import AtmosChem.Mechanism.Basic

/-!
# Names that are repeated

The names of several reactions are reported at their second places.  A name that has been seen is
not reported yet at its first place, and one that has been reported is not reported again.

* `Mechanism.mem_secondUses`: what is reported of a list, whatever has been seen before.
* `Mechanism.repeatedNames_eq_nil_iff`: nothing is reported if all reactions have names of their
  own.
* `Mechanism.secondUses_concat`: one more name is reported if it has been used exactly once.
* `Mechanism.exists_places`, `Mechanism.repeatedNames_secondPlaces`: names are reported at their
  second places, each of them once, and what has been reported stays at the front of the report.
-/

namespace AtmosChem.Mechanism

/-- **A second use is a name that is used twice**, where having been seen is one use, and that has
not been reported. -/
theorem mem_secondUses {s : String} {seen reported names : List String} (h : reported ⊆ seen) :
    s ∈ secondUses seen reported names ↔
      s ∉ reported ∧ 2 ≤ (if s ∈ seen then 1 else 0) + names.count s := by
  induction names generalizing seen reported with
  | nil =>
    rw [secondUses, List.count_nil]
    split <;> simp
  | cons t names ih =>
    by_cases hseen : t ∈ seen
    · by_cases hreported : t ∈ reported
      · -- A name that is reported already is none of the names sought.
        rw [secondUses, if_pos hseen, if_pos hreported, ih h]
        refine and_congr_right fun hs => ?_
        rw [List.count_cons_of_ne]
        rintro rfl
        exact hs hreported
      · rw [secondUses, if_pos hseen, if_neg hreported, List.mem_cons,
          ih (List.cons_subset.2 ⟨hseen, h⟩), List.mem_cons]
        by_cases hs : s = t
        · subst hs
          have htwice : 2 ≤ (if s ∈ seen then 1 else 0) + (s :: names).count s := by
            rw [if_pos hseen, List.count_cons_self]
            omega
          exact iff_of_true (Or.inl rfl) ⟨hreported, htwice⟩
        · rw [List.count_cons_of_ne (Ne.symm hs)]
          simp [hs]
    · rw [secondUses, if_neg hseen, ih fun r hr => List.mem_cons_of_mem t (h hr)]
      refine and_congr_right fun _ => ?_
      by_cases hs : s = t
      · subst hs
        rw [if_pos List.mem_cons_self, if_neg hseen, List.count_cons_self]
        omega
      · rw [List.count_cons_of_ne (Ne.symm hs)]
        simp [hs]

/-- **No name is repeated** if and only if all reactions have names of their own. -/
theorem repeatedNames_eq_nil_iff {m : Mechanism} :
    m.repeatedNames = [] ↔ (m.reactions.map Reaction.name).Nodup := by
  rw [List.eq_nil_iff_forall_not_mem, List.nodup_iff_count_le_one]
  refine forall_congr' fun s => ?_
  rw [repeatedNames, mem_secondUses (List.nil_subset _)]
  simp only [List.not_mem_nil, not_false_eq_true, true_and, if_false, Nat.zero_add]
  omega

/-! ### One more name -/

/-- A last name is reported if it has been used exactly once before it, where having been seen is
one use, and has not been reported. -/
theorem secondUses_append_singleton {seen reported : List String} (h : reported ⊆ seen)
    (names : List String) (t : String) :
    secondUses seen reported (names ++ [t]) =
      secondUses seen reported names ++
        if t ∉ reported ∧ (if t ∈ seen then 1 else 0) + names.count t = 1 then [t] else [] := by
  induction names generalizing seen reported with
  | nil =>
    by_cases hseen : t ∈ seen <;> by_cases hreported : t ∈ reported <;>
      simp [secondUses, hseen, hreported]
  | cons s names ih =>
    rw [List.cons_append]
    by_cases hseen : s ∈ seen
    · by_cases hreported : s ∈ reported
      · rw [secondUses, if_pos hseen, if_pos hreported, ih h, secondUses, if_pos hseen,
          if_pos hreported]
        by_cases ht : t = s
        · subst ht
          simp [hreported]
        · rw [List.count_cons_of_ne (Ne.symm ht)]
      · rw [secondUses, if_pos hseen, if_neg hreported, ih (List.cons_subset.2 ⟨hseen, h⟩),
          secondUses, if_pos hseen, if_neg hreported, List.cons_append]
        by_cases ht : t = s
        · -- it is reported here, so at its last place it has been used twice
          subst ht
          simp [hseen]
        · rw [List.count_cons_of_ne (Ne.symm ht)]
          simp [ht]
    · rw [secondUses, if_neg hseen, ih fun r hr => List.mem_cons_of_mem s (h hr), secondUses,
        if_neg hseen]
      by_cases ht : t = s
      · subst ht
        rw [if_pos List.mem_cons_self, if_neg hseen, List.count_cons_self, Nat.zero_add,
          Nat.add_comm]
      · rw [List.count_cons_of_ne (Ne.symm ht)]
        simp [ht]

/-- **One more name** is reported if it has been used exactly once. -/
theorem secondUses_concat (names : List String) (t : String) :
    secondUses [] [] (names ++ [t]) =
      secondUses [] [] names ++ if names.count t = 1 then [t] else [] := by
  rw [secondUses_append_singleton (List.nil_subset _)]
  simp

theorem mem_secondUses_nil {names : List String} {s : String} :
    s ∈ secondUses [] [] names ↔ 2 ≤ names.count s := by
  rw [mem_secondUses (List.nil_subset _)]
  simp

/-- **No name is reported twice**: where it is used for the second time it has not been. -/
theorem nodup_secondUses (names : List String) : (secondUses [] [] names).Nodup := by
  induction names using List.reverseRecOn with
  | nil => exact List.nodup_nil
  | append_singleton names t ih =>
    rw [secondUses_concat]
    by_cases ht : names.count t = 1
    · rw [if_pos ht]
      refine ih.append (List.nodup_singleton t) ?_
      rw [List.disjoint_singleton, mem_secondUses_nil]
      omega
    · rwa [if_neg ht, List.append_nil]

/-- **More names** only add to the end of the report. -/
theorem secondUses_prefix_append (names more : List String) :
    secondUses [] [] names <+: secondUses [] [] (names ++ more) := by
  induction more using List.reverseRecOn with
  | nil => exact ⟨[], by rw [List.append_nil, List.append_nil]⟩
  | append_singleton more t ih =>
    rw [← List.append_assoc, secondUses_concat]
    exact ih.trans (List.prefix_append _ _)

/-! ### Second places -/

/-- Whether a name stands at some place for the second time. -/
structure SecondAt (names : List String) (name : String) (place : Nat) : Prop where
  here : names[place]? = some name
  once : (names.take place).count name = 1

namespace SecondAt

theorem lt_length {names : List String} {name : String} {place : Nat}
    (h : SecondAt names name place) : place < names.length :=
  (List.getElem?_eq_some_iff.1 h.here).1

theorem append {names : List String} {name : String} {place : Nat}
    (h : SecondAt names name place) (more : List String) :
    SecondAt (names ++ more) name place := by
  have hlt := h.lt_length
  refine ⟨?_, ?_⟩
  · rw [List.getElem?_append_left hlt]
    exact h.here
  · rw [List.take_append_of_le_length (Nat.le_of_lt hlt)]
    exact h.once

theorem last {names : List String} {name : String} (h : names.count name = 1) :
    SecondAt (names ++ [name]) name names.length := by
  refine ⟨List.getElem?_concat_length, ?_⟩
  rw [List.take_left]
  exact h

end SecondAt

/-- **Names are reported at their second places**, in the order of these. -/
theorem exists_places (names : List String) :
    ∃ places : List Nat, places.Pairwise (· < ·) ∧ (∀ place ∈ places, place < names.length) ∧
      List.Forall₂ (SecondAt names) (secondUses [] [] names) places := by
  induction names using List.reverseRecOn with
  | nil => exact ⟨[], List.Pairwise.nil, nofun, List.Forall₂.nil⟩
  | append_singleton names t ih =>
    obtain ⟨places, hascend, hbound, hplaces⟩ := ih
    have hstill : List.Forall₂ (SecondAt (names ++ [t])) (secondUses [] [] names) places :=
      hplaces.imp fun _ _ h => h.append [t]
    rw [secondUses_concat, List.length_append, List.length_singleton]
    by_cases ht : names.count t = 1
    · rw [if_pos ht]
      refine ⟨places ++ [names.length], ?_, ?_, ?_⟩
      · rw [List.pairwise_append]
        refine ⟨hascend, List.pairwise_singleton _ _, ?_⟩
        intro place hplace last hlast
        rw [List.mem_singleton.1 hlast]
        exact hbound place hplace
      · intro place hplace
        rcases List.mem_append.1 hplace with hplace | hplace
        · have := hbound place hplace
          omega
        · rw [List.mem_singleton.1 hplace]
          omega
      · exact List.rel_append hstill (List.Forall₂.cons (SecondAt.last ht) List.Forall₂.nil)
    · rw [if_neg ht, List.append_nil]
      refine ⟨places, hascend, ?_, hstill⟩
      intro place hplace
      have := hbound place hplace
      omega

/-- **The report of repeated names.**  It lists the names that at least two reactions have, each of
them once, and in the order of their second places among the names of the reactions; and more
reactions only add to its end. -/
theorem repeatedNames_secondPlaces (m : Mechanism) :
    (∀ name, name ∈ m.repeatedNames ↔
      2 ≤ (m.reactions.filter fun r => r.name = name).length) ∧
    (∀ name ∈ m.repeatedNames, m.repeatedNames.count name = 1) ∧
    (∃ places : List Nat, places.Pairwise (· < ·) ∧
      List.Forall₂ (SecondAt (m.reactions.map Reaction.name)) m.repeatedNames places) ∧
    ∀ rs, m.repeatedNames <+: (m.addReactions rs).repeatedNames := by
  refine ⟨?_, ?_, ?_, ?_⟩
  · intro name
    have hcount : (m.reactions.map Reaction.name).count name =
        (m.reactions.filter fun r => r.name = name).length := by
      rw [List.count, List.countP_map, List.countP_eq_length_filter]
      rfl
    rw [repeatedNames, mem_secondUses_nil, hcount]
  · intro name hname
    exact List.count_eq_one_of_mem (nodup_secondUses _) hname
  · obtain ⟨places, hascend, -, hplaces⟩ := exists_places (m.reactions.map Reaction.name)
    exact ⟨places, hascend, hplaces⟩
  · intro rs
    rw [repeatedNames, repeatedNames, addReactions, List.map_append]
    exact secondUses_prefix_append _ _

/-- Reactions of nothing, with the given names. -/
def named (names : List String) : List Reaction :=
  names.map fun name => ⟨name, .photolysis, .empty⟩

/-- The second place of `b` is before that of `a`, and `c` has one place only. -/
def interleaved : Mechanism where
  name := "interleaved"
  species := []
  reactions := named ["a", "c", "b", "b", "a", "b"]

theorem repeatedNames_secondPlaces_interleaved :
    interleaved.repeatedNames = ["b", "a"] ∧
    2 ≤ (interleaved.reactions.filter fun r => r.name = "a").length ∧
    interleaved.repeatedNames.count "b" = 1 ∧
    (∃ places : List Nat, places.Pairwise (· < ·) ∧
      List.Forall₂ (SecondAt ["a", "c", "b", "b", "a", "b"]) interleaved.repeatedNames places) ∧
    interleaved.repeatedNames <+: (interleaved.addReactions (named ["a", "c"])).repeatedNames := by
  obtain ⟨hmem, hcount, hplaces, hprefix⟩ := repeatedNames_secondPlaces interleaved
  have hnames : interleaved.repeatedNames = ["b", "a"] := by decide +kernel
  refine ⟨hnames, (hmem "a").1 ?_, hcount "b" ?_, hplaces, hprefix (named ["a", "c"])⟩
  · simp [hnames]
  · simp [hnames]

end AtmosChem.Mechanism
