import AtmosChem.Proofs.MozartStates

/-!
# The layout of a section of MOZART

How a section is laid out in lines makes no difference to what becomes of it: comments and outer
blanks may go, blank lines may come and go, and an equation may be wrapped over any number of lines.

For the first two, the pieces stay the same.  Joining two lines of an equation changes the pieces: a
text and the text after it become one (`run_text_text`), and so do an arrow and the text after it
(`run_append_arrow_text`).  If the arrow stands on the line that opened its block, the block
remembers a longer line afterwards; nothing looks at it.

* `translate_layout`: the laws.
-/

namespace AtmosChem.Mozart

open Text

/-! ### Two texts of an equation -/

namespace SubEquation

theorem start_continueWith (label left right line : List Char) :
    (start label left right).continueWith line = start label left (right ++ ' ' :: line) := by
  cases hr : cutAt ';' right with
  | some p =>
    obtain ⟨products, tail⟩ := p
    simp only [start, hr, continueWith, cutAt_append_of_eq_some hr]
  | none =>
    have hcut := cutAt_append_of_not_mem (cutAt_eq_none_iff.1 hr) (' ' :: line)
    rw [cutAt, if_neg (by decide)] at hcut
    cases hl : cutAt ';' line with
    | some p => simp [start, hr, continueWith, hcut, hl]
    | none => simp [start, hr, continueWith, hcut, hl]

theorem continueWith_continueWith (e : SubEquation) (line next : List Char) :
    (e.continueWith line).continueWith next = e.continueWith (line ++ ' ' :: next) := by
  cases hc : e.coefficients with
  | some tail => simp [continueWith, hc]
  | none =>
    cases hl : cutAt ';' line with
    | some p =>
      obtain ⟨products, tail⟩ := p
      simp [continueWith, hc, hl, cutAt_append_of_eq_some hl]
    | none =>
      have hcut := cutAt_append_of_not_mem (cutAt_eq_none_iff.1 hl) (' ' :: next)
      rw [cutAt, if_neg (by decide)] at hcut
      cases hn : cutAt ';' next with
      | some p => simp [continueWith, hc, hl, hcut, hn]
      | none => simp [continueWith, hc, hl, hcut, hn]

end SubEquation

/-! ### Joining two lines -/

/-- Two lines written as one. -/
def join (first next : List Char) : List Char := first ++ ' ' :: next

namespace State

theorem run_arrow_text (q : State) (left right line : List Char) :
    q.run [.arrow left right, .text line] = q.run [.arrow left (join right line)] := by
  rw [join, run_singleton, readPiece, ← SubEquation.start_continueWith, run_cons, readPiece]
  change State.run _ _ = _
  rw [run_singleton, readPiece_text_eq_ok_iff, mayContinue, nextLabel]
  cases q.block with
  | none => exact ⟨rfl, _, _, rfl, rfl⟩
  | some b => exact ⟨by simp, _, _, rfl, rfl⟩

/-- **An arrow and the text after it** are one arrow. -/
theorem run_append_arrow_text (q : State) (ps : List Piece) (left right line : List Char) :
    q.run (ps ++ [.arrow left right, .text line]) =
      q.run (ps ++ [.arrow left (join right line)]) := by
  rw [run_append, run_append]
  congr 1
  funext r
  exact r.run_arrow_text left right line

theorem run_text_text {q : State} (h : q.inEquation = true) (line next : List Char) :
    q.run [.text line, .text next] = q.run [.text (join line next)] := by
  obtain ⟨e, es, he, hm⟩ := exists_of_inEquation h
  have hread : ∀ text, q.readPiece (.text text) =
      .ok { q with equations := e.continueWith text :: es } := by
    intro text
    exact readPiece_text_eq_ok_iff.2 ⟨hm, e, es, he, rfl⟩
  obtain ⟨e', es', he', hm'⟩ := exists_of_inEquation (inEquation_of_text (hread line))
  obtain ⟨rfl, rfl⟩ := List.cons.inj he'
  rw [run_cons, hread line]
  change State.run _ _ = _
  rw [run_singleton, run_singleton, hread, join, ← SubEquation.continueWith_continueWith]
  exact readPiece_text_eq_ok_iff.2 ⟨hm', _, _, rfl, rfl⟩

/-- The line that opened a block is not seen once the block has an equation. -/
theorem seen_run_opening_arrow (q : State) (label left right line line' : List Char) :
    (q.run [.opening label line, .arrow left right]).map seen =
      (q.run [.opening label line', .arrow left right]).map seen := by
  rw [run_cons, run_cons, readPiece, readPiece]
  cases q.unfinished? <;> rfl

end State

theorem head_join {first : List Char} (hne : first ≠ []) (next : List Char) :
    (join first next).head? = first.head? := by
  rw [join, List.head?_append, Option.or_of_isSome (List.isSome_head?.2 hne)]

theorem getLast_join (first : List Char) {next : List Char} (hne : next ≠ []) :
    (join first next).getLast? = next.getLast? := by
  rw [join, getLast?_append_right (List.cons_ne_nil _ _), List.getLast?_cons_of_ne_nil hne]

theorem tight_join {first next : List Char} (hf : Tight first) (hn : Tight next)
    (hfne : first ≠ []) (hnne : next ≠ []) : Tight (join first next) := by
  refine ⟨?_, ?_⟩
  · rw [head_join hfne]
    exact hf.head
  · rw [getLast_join first hnne]
    exact hn.last

theorem clean_join {first next : List Char} (hfne : clean first ≠ []) (hnne : clean next ≠ []) :
    clean (join (clean first) (clean next)) = join (clean first) (clean next) := by
  refine clean_eq_self ?_ (tight_join (tight_clean first) (tight_clean next) hfne hnne)
  have hf := comment_not_mem_clean first
  have hn := comment_not_mem_clean next
  simp [join, hf, hn]

theorem bodyOf_join {first next : List Char} (h : isArrowLine first = true) (hf : Tight first)
    (hn : Tight next) (hne : next ≠ []) : bodyOf (join first next) = join (bodyOf first) next := by
  obtain ⟨left, right, hcut, ⟨hh, -⟩ | ⟨rest, label, body, rfl, hb, -⟩⟩ := isArrowLine_cases h
  · have hfne : first ≠ [] := by
      rintro rfl
      simp [bodyOf, cutAtWord, arrow] at hcut
    rw [bodyOf_of_head hh, bodyOf_of_head (by rwa [head_join hfne])]
  · rw [bodyOf_of_cut hb] at hcut
    have htrim : trim body ≠ [] := by
      intro he
      simp [he, cutAtWord, arrow] at hcut
    have hbody : body ≠ [] := by
      rintro rfl
      exact htrim rfl
    have hlast : ∀ c ∈ body.getLast?, isBlank c = false := by
      have hl := hf.last
      have he : '[' :: rest = ('[' :: label ++ [']']) ++ body := by
        rw [eq_append_of_cutAt hb]
        simp
      rwa [he, getLast?_append_right hbody] at hl
    have hlast' : ∀ c ∈ (' ' :: next).getLast?, isBlank c = false := by
      rw [List.getLast?_cons_of_ne_nil hne]
      exact hn.last
    rw [bodyOf_of_cut hb, join, List.cons_append, bodyOf_of_cut (cutAt_append_of_eq_some hb _),
      trim_append htrim (List.cons_ne_nil _ _) hlast hlast', join]

/-- The arrow of a line is the arrow of any line that the line begins. -/
theorem cutAtWord_bodyOf_join {first next left right : List Char} (h : isArrowLine first = true)
    (hf : Tight first) (hn : Tight next) (hne : next ≠ [])
    (hcut : cutAtWord arrow (bodyOf first) = some (left, right)) :
    cutAtWord arrow (bodyOf (join first next)) = some (left, join right next) := by
  rw [bodyOf_join h hf hn hne, join, cutAtWord_append_of_eq_some hcut (by decide), join]

theorem isArrowLine_join {first next : List Char} (h : isArrowLine first = true) (hf : Tight first)
    (hn : Tight next) (hne : next ≠ []) : isArrowLine (join first next) = true := by
  obtain ⟨⟨left, right⟩, hcut⟩ := Option.isSome_iff_exists.1 h
  rw [isArrowLine, occurs, cutAtWord_bodyOf_join h hf hn hne hcut, Option.isSome_some]

theorem isContinuation_join {first next : List Char} (hf : isContinuation first = true)
    (hn : isContinuation next = true) : isContinuation (join first next) = true := by
  obtain ⟨hfne, hfh, hfc⟩ := isContinuation_iff.1 hf
  obtain ⟨hnne, hnh, hnc⟩ := isContinuation_iff.1 hn
  refine isContinuation_iff.2 ⟨?_, ?_, ?_⟩
  · simp [join]
  · rwa [head_join hfne]
  · rw [join, cutAtWord_append_cons (by decide) (by decide) hfc, hnc, Option.map_none]

/-- **The line of an arrow may be joined** with a line that goes on with it. -/
theorem seen_run_arrow_join (q : State) {first next : List Char} (h : isArrowLine first = true)
    (hf : Tight first) (hn : Tight next) (hnext : isContinuation next = true) :
    (q.run (pieces first ++ pieces next)).map State.seen =
      (q.run (pieces (join first next))).map State.seen := by
  have hne := (isContinuation_iff.1 hnext).1
  obtain ⟨left, right, hcut, hfirst⟩ := isArrowLine_cases h
  obtain ⟨left', right', hcut', hjoin⟩ := isArrowLine_cases (isArrowLine_join h hf hn hne)
  rw [cutAtWord_bodyOf_join h hf hn hne hcut, Option.some.injEq, Prod.mk.injEq] at hcut'
  obtain ⟨rfl, rfl⟩ := hcut'
  have hfne : first ≠ [] := by
    rintro rfl
    exact absurd h (by decide)
  rw [pieces_of_isContinuation hnext]
  rcases hfirst with ⟨hh, hp⟩ | ⟨rest, label, body, he, hb, hp⟩
  · rcases hjoin with ⟨-, hp'⟩ | ⟨rest', label', body', he', -⟩
    · rw [hp, hp', List.singleton_append, q.run_arrow_text]
    · rw [← head_join hfne next, he'] at hh
      exact absurd rfl hh
  · rcases hjoin with ⟨hh', -⟩ | ⟨rest', label', body', he', hb', hp'⟩
    · rw [head_join hfne, he] at hh'
      exact absurd rfl hh'
    · have hrest : rest' = rest ++ ' ' :: next := by
        rw [join, he, List.cons_append] at he'
        exact (List.cons.inj he').2.symm
      rw [hrest, cutAt_append_of_eq_some hb, Option.some.injEq, Prod.mk.injEq] at hb'
      rw [hp, hp', ← hb'.1]
      change (q.run ([.opening (trim label) first] ++ [.arrow left right, .text next])).map _ = _
      rw [State.run_append_arrow_text]
      exact q.seen_run_opening_arrow (trim label) left _ first _

theorem run_text_join {q : State} (hq : q.inEquation = true) {first next : List Char}
    (hfirst : isContinuation first = true) (hnext : isContinuation next = true) :
    q.run (pieces first ++ pieces next) = q.run (pieces (join first next)) := by
  rw [pieces_of_isContinuation hfirst, pieces_of_isContinuation hnext,
    pieces_of_isContinuation (isContinuation_join hfirst hnext), List.singleton_append,
    State.run_text_text hq]

/-! ### Layout -/

theorem sectionPieces_of_blank {lines : List (List Char)} (h : ∀ l ∈ lines, clean l = []) :
    sectionPieces lines = [] := by
  rw [sectionPieces, List.flatMap_eq_nil_iff]
  intro l hl
  rw [h l hl, pieces_nil]

theorem translate_clean (before : List (List Char)) (line : List Char) (after : List (List Char)) :
    translate (before ++ clean line :: after) = translate (before ++ line :: after) := by
  refine translate_congr ?_
  rw [sectionPieces_append, sectionPieces_append, sectionPieces_cons, sectionPieces_cons,
    clean_clean]

theorem translate_blank {line : List Char} (h : clean line = []) (before after : List (List Char)) :
    translate (before ++ line :: after) = translate (before ++ after) := by
  refine translate_congr ?_
  rw [sectionPieces_append, sectionPieces_append, sectionPieces_cons, h, pieces_nil,
    List.nil_append]

/-- **Two lines of an equation may be joined**, wherever they stand and whatever is around them. -/
theorem translate_join {first next : List Char} {before blanks : List (List Char)}
    (hfirst : endsInEquation (first :: before.reverse) = true) (hne : clean first ≠ [])
    (hblanks : ∀ l ∈ blanks, clean l = []) (hnext : isContinuation (clean next) = true)
    (after : List (List Char)) :
    translate (before ++ first :: (blanks ++ next :: after)) =
      translate (before ++ join (clean first) (clean next) :: (blanks ++ after)) := by
  have hnne : clean next ≠ [] := (isContinuation_iff.1 hnext).1
  have hcollect : collect (before ++ first :: (blanks ++ next :: after)) =
      collect (before ++ join (clean first) (clean next) :: (blanks ++ after)) := by
    simp only [collect_eq, sectionPieces_append, sectionPieces_cons, sectionPieces_of_blank hblanks,
      clean_join hne hnne, List.nil_append, State.bind_finish_append State.start]
    cases hq : State.start.run (sectionPieces before) with
    | error e => rfl
    | ok q =>
      change (q.run _).bind _ = (q.run _).bind _
      rw [← List.append_assoc]
      refine State.run_append_congr ?_ _
      simp only [endsInEquation, Bool.or_eq_true, Bool.and_eq_true, beq_iff_eq] at hfirst
      rcases hfirst with harrow | ⟨hblank | htext, hbefore⟩
      · exact seen_run_arrow_join q harrow (tight_clean first) (tight_clean next) hnext
      · exact absurd hblank hne
      · have hin : q.inEquation = true :=
          inEquation_of_endsInEquation hbefore (by rwa [List.reverse_reverse])
        rw [run_text_join hin htext hnext]
  rw [translate, translate, hcollect]

/-- **An equation may be wrapped** over any number of lines. -/
theorem translate_unwrap {first : List Char} {rest : List (List Char)}
    (hfirst : isArrowLine (clean first) = true)
    (hrest : ∀ l ∈ rest, isContinuation (clean l) = true)
    (before after : List (List Char)) :
    translate (before ++ first :: (rest ++ after)) =
      translate (before ++ (rest.map clean).foldl join (clean first) :: after) := by
  induction rest generalizing first with
  | nil => exact (translate_clean before first after).symm
  | cons next rest ih =>
    have hnext := hrest next List.mem_cons_self
    have hnne : clean next ≠ [] := (isContinuation_iff.1 hnext).1
    have hfne : clean first ≠ [] := by
      intro he
      rw [he] at hfirst
      exact absurd hfirst (by decide)
    have hclean := clean_join hfne hnne
    have hends : endsInEquation (first :: before.reverse) = true := by
      rw [endsInEquation, hfirst, Bool.true_or]
    have hjoin := translate_join hends hfne (List.forall_mem_nil _) hnext (rest ++ after)
    have harrow := isArrowLine_join hfirst (tight_clean first) (tight_clean next) hnne
    rw [← hclean] at harrow
    have hwrapped := ih harrow fun l hl => hrest l (List.mem_cons_of_mem next hl)
    rw [hclean] at hwrapped
    exact hjoin.trans hwrapped

/-- **How a section is laid out makes no difference**: a line may be exchanged for the line without
its comment and its outer blanks, a blank line may be left out, two lines of an equation may be
joined, with blank lines between them or not, and so may all the lines of an equation. -/
theorem translate_layout :
    (∀ before line after,
      translate (before ++ clean line :: after) = translate (before ++ line :: after)) ∧
    (∀ before line after, clean line = [] →
      translate (before ++ line :: after) = translate (before ++ after)) ∧
    (∀ before first blanks next after, endsInEquation (first :: before.reverse) = true →
      clean first ≠ [] → (∀ l ∈ blanks, clean l = []) → isContinuation (clean next) = true →
      translate (before ++ first :: (blanks ++ next :: after)) =
        translate (before ++ join (clean first) (clean next) :: (blanks ++ after))) ∧
    (∀ before first rest after, isArrowLine (clean first) = true →
      (∀ l ∈ rest, isContinuation (clean l) = true) →
      translate (before ++ first :: (rest ++ after)) =
        translate (before ++ (rest.map clean).foldl join (clean first) :: after)) := by
  refine ⟨translate_clean, ?_, ?_, ?_⟩
  · intro before line after hline
    exact translate_blank hline before after
  · intro before first blanks next after hfirst hne hblanks hnext
    exact translate_join hfirst hne hblanks hnext after
  · intro before first rest after hfirst hrest
    exact translate_unwrap hfirst hrest before after

/-- An equation over four lines, with a comment between them. -/
def wrapped : List (List Char) :=
  ["[RXN1] A + B -> C ! over four lines".toList, "  ! a comment".toList, "  + D ; 1.0e-12,".toList,
    " 2000".toList]

/-- A comment is cut off, a line is left out, and an equation is joined: once with the comment
between its lines, and once as a whole. -/
theorem translate_wrapped :
    translate wrapped = translate ("[RXN1] A + B -> C".toList :: wrapped.tail) ∧
    translate wrapped = translate (wrapped.eraseIdx 1) ∧
    translate wrapped =
      translate ["[RXN1] A + B -> C + D ; 1.0e-12,".toList, "  ! a comment".toList,
        " 2000".toList] ∧
    translate (wrapped.eraseIdx 1) =
      translate ["[RXN1] A + B -> C + D ; 1.0e-12, 2000".toList] := by
  obtain ⟨hclean, hblank, hjoin, hunwrap⟩ := translate_layout
  refine ⟨?_, ?_, ?_, ?_⟩
  · have h := hclean [] "[RXN1] A + B -> C ! over four lines".toList wrapped.tail
    rw [show clean "[RXN1] A + B -> C ! over four lines".toList = "[RXN1] A + B -> C".toList by
      decide +kernel] at h
    exact h.symm
  · exact hblank ["[RXN1] A + B -> C ! over four lines".toList] "  ! a comment".toList _
      (by decide +kernel)
  · have h := hjoin [] "[RXN1] A + B -> C ! over four lines".toList ["  ! a comment".toList]
      "  + D ; 1.0e-12,".toList [" 2000".toList] (by decide +kernel) (by decide +kernel)
      (by decide +kernel) (by decide +kernel)
    rw [show join (clean "[RXN1] A + B -> C ! over four lines".toList)
      (clean "  + D ; 1.0e-12,".toList) = "[RXN1] A + B -> C + D ; 1.0e-12,".toList by
      decide +kernel] at h
    exact h
  · have h := hunwrap [] "[RXN1] A + B -> C ! over four lines".toList
      ["  + D ; 1.0e-12,".toList, " 2000".toList] [] (by decide +kernel) (by decide +kernel)
    rw [show (["  + D ; 1.0e-12,".toList, " 2000".toList].map clean).foldl join
      (clean "[RXN1] A + B -> C ! over four lines".toList) =
      "[RXN1] A + B -> C + D ; 1.0e-12, 2000".toList by decide +kernel] at h
    exact h

end AtmosChem.Mozart
