import AtmosChem.Equation.Mozart
import AtmosChem.Proofs.Cutting
import AtmosChem.Proofs.Outcomes
import AtmosChem.Proofs.Trimming

/-!
# What the lines of MOZART consist of

A cleaned line is one or two things at once: a label in brackets may open a block and be followed by
the block's first equation.  Taken apart into **pieces** (`pieces`), a section is read one piece
after the other, and each piece does one thing to the state (`State.readPiece`).

* `collect_eq`: collecting the equations of a section is reading its pieces.
* `State.run_append`: pieces are read from left to right.

Everything about sections is proved on pieces.
-/

namespace AtmosChem.Mozart

open Text

/-! ### Pieces -/

/-- A piece of a section. -/
inductive Piece
  /-- A label, trimmed, and the line that it stands on. -/
  | opening (label line : List Char)
  /-- A line whose bracket is not closed. -/
  | unclosed (line : List Char)
  /-- The texts left and right of an arrow. -/
  | arrow (left right : List Char)
  /-- A text without an arrow. -/
  | text (line : List Char)
deriving DecidableEq, Repr

/-- The arrow of an equation. -/
def arrow : List Char := ['-', '>']

/-- The pieces of a line without a label. -/
def bodyPieces (body : List Char) : List Piece :=
  if body = [] then []
  else match cutAtWord arrow body with
    | some (left, right) => [.arrow left right]
    | none => [.text body]

/-- The pieces of a line that has been cleaned. -/
def pieces : List Char → List Piece
  | '[' :: rest =>
    match cutAt ']' rest with
    | some (label, body) => .opening (trim label) ('[' :: rest) :: bodyPieces (trim body)
    | none => [.unclosed ('[' :: rest)]
  | line => bodyPieces line

/-- The pieces of the lines of a section. -/
def sectionPieces (lines : List (List Char)) : List Piece := lines.flatMap fun l => pieces (clean l)

@[simp] theorem bodyPieces_nil : bodyPieces [] = [] := rfl

@[simp] theorem pieces_nil : pieces [] = [] := rfl

theorem bodyPieces_of_some {body left right : List Char}
    (h : cutAtWord arrow body = some (left, right)) : bodyPieces body = [.arrow left right] := by
  cases body with
  | nil => simp [cutAtWord, arrow] at h
  | cons c s => simp only [bodyPieces, if_neg (List.cons_ne_nil c s), h]

theorem bodyPieces_of_none {body : List Char} (hne : body ≠ []) (h : cutAtWord arrow body = none) :
    bodyPieces body = [.text body] := by
  simp only [bodyPieces, if_neg hne, h]

theorem pieces_of_head {line : List Char} (h : line.head? ≠ some '[') :
    pieces line = bodyPieces line := by
  unfold pieces
  split
  · simp at h
  · rfl

theorem pieces_of_cut {rest label body : List Char} (h : cutAt ']' rest = some (label, body)) :
    pieces ('[' :: rest) = .opening (trim label) ('[' :: rest) :: bodyPieces (trim body) := by
  simp only [pieces, h]

/-! ### Arrow lines and continuations -/

/-- What a cleaned line holds behind its label, if it has a label; nothing if the label's bracket is
not closed. -/
def bodyOf : List Char → List Char
  | '[' :: rest => ((cutAt ']' rest).map fun p => trim p.2).getD []
  | line => line

/-- Whether a cleaned line holds an equation, or the beginning of one. -/
def isArrowLine (line : List Char) : Bool := occurs arrow (bodyOf line)

/-- Whether a cleaned line goes on with an equation. -/
def isContinuation (line : List Char) : Bool :=
  line != [] && line.head? != some '[' && !occurs arrow line

theorem bodyOf_of_head {line : List Char} (h : line.head? ≠ some '[') : bodyOf line = line := by
  unfold bodyOf
  split
  · simp at h
  · rfl

theorem bodyOf_of_cut {rest label body : List Char} (h : cutAt ']' rest = some (label, body)) :
    bodyOf ('[' :: rest) = trim body := by
  simp only [bodyOf, h, Option.map_some, Option.getD_some]

theorem isContinuation_iff {line : List Char} :
    isContinuation line = true ↔
      line ≠ [] ∧ line.head? ≠ some '[' ∧ cutAtWord arrow line = none := by
  simp [isContinuation, and_assoc, ← occurs_eq_false_iff]

theorem not_mem_arrow_of_isBlank {c : Char} (h : isBlank c = true) : c ∉ arrow := by
  have hno : ∀ d ∈ arrow, isBlank d = false := forall_mem_of_all (by decide)
  intro hm
  rw [hno c hm] at h
  exact absurd h (by decide)

theorem occurs_arrow_iff (s : List Char) : occurs arrow s = true ↔ arrow <:+: s :=
  occurs_iff_infix (by decide) s

theorem occurs_arrow_trim (s : List Char) : occurs arrow (trim s) = occurs arrow s := by
  obtain ⟨lead, trail, hl, ht, he⟩ := exists_eq_trim s
  have hlead : '-' ∉ lead := fun hm => not_mem_arrow_of_isBlank (hl _ hm) (by decide)
  have htrail : ∀ c ∈ trail, c ∉ arrow := fun c hc => not_mem_arrow_of_isBlank (ht c hc)
  have hpad := occurs_pad hlead htrail (trim s)
  rw [← he] at hpad
  exact hpad.symm

/-- An arrow line is an equation, with a label before it or not. -/
theorem isArrowLine_cases {line : List Char} (h : isArrowLine line = true) :
    ∃ left right, cutAtWord arrow (bodyOf line) = some (left, right) ∧
      (line.head? ≠ some '[' ∧ pieces line = [.arrow left right] ∨
        ∃ rest label body, line = '[' :: rest ∧ cutAt ']' rest = some (label, body) ∧
          pieces line = [.opening (trim label) line, .arrow left right]) := by
  obtain ⟨⟨left, right⟩, hcut⟩ := Option.isSome_iff_exists.1 h
  refine ⟨left, right, hcut, ?_⟩
  by_cases hh : line.head? = some '['
  · right
    obtain ⟨rest, rfl⟩ : ∃ rest, line = '[' :: rest := by
      cases line with
      | nil => simp at hh
      | cons c rest => exact ⟨rest, by rw [Option.some.inj hh]⟩
    cases hb : cutAt ']' rest with
    | none => simp [bodyOf, hb, cutAtWord, arrow] at hcut
    | some p =>
      obtain ⟨label, body⟩ := p
      refine ⟨rest, label, body, rfl, hb, ?_⟩
      rw [bodyOf_of_cut hb] at hcut
      rw [pieces_of_cut hb, bodyPieces_of_some hcut]
  · left
    rw [bodyOf_of_head hh] at hcut
    exact ⟨hh, by rw [pieces_of_head hh, bodyPieces_of_some hcut]⟩

theorem pieces_of_isContinuation {line : List Char} (h : isContinuation line = true) :
    pieces line = [.text line] := by
  obtain ⟨hne, hh, hcut⟩ := isContinuation_iff.1 h
  rw [pieces_of_head hh, bodyPieces_of_none hne hcut]

@[simp] theorem sectionPieces_nil : sectionPieces [] = [] := rfl

theorem sectionPieces_cons (line : List Char) (lines : List (List Char)) :
    sectionPieces (line :: lines) = pieces (clean line) ++ sectionPieces lines :=
  List.flatMap_cons

theorem sectionPieces_append (ls ms : List (List Char)) :
    sectionPieces (ls ++ ms) = sectionPieces ls ++ sectionPieces ms :=
  List.flatMap_append

/-! ### Clean lines -/

theorem comment_not_mem_clean (line : List Char) : '!' ∉ clean line := by
  intro h
  exact not_mem_before '!' line (mem_of_mem_trim h)

theorem tight_clean (line : List Char) : Tight (clean line) := tight_trim _

theorem clean_of_not_mem {line : List Char} (h : '!' ∉ line) : clean line = trim line := by
  rw [clean, before_of_not_mem h]

theorem clean_eq_self {line : List Char} (h : '!' ∉ line) (ht : Tight line) :
    clean line = line := by
  rw [clean_of_not_mem h, trim_of_tight ht]

@[simp] theorem clean_clean (line : List Char) : clean (clean line) = clean line :=
  clean_eq_self (comment_not_mem_clean line) (tight_clean line)

/-! ### Lines from their parts -/

/-- A label in brackets and a body, of which the body may be an equation or nothing. -/
theorem pieces_clean_bracketed {label body : List Char} (hlabel : ']' ∉ label)
    (hcomment : '!' ∉ label ++ body) :
    pieces (clean ('[' :: (label ++ ']' :: body))) =
      .opening (trim label) ('[' :: (label ++ ']' :: trimEnd body)) :: bodyPieces (trim body) := by
  have hline : '!' ∉ '[' :: (label ++ ']' :: body) := by
    rw [List.mem_append, not_or] at hcomment
    simp [hcomment.1, hcomment.2]
  have htrim : trim ('[' :: (label ++ ']' :: body)) = '[' :: (label ++ ']' :: trimEnd body) := by
    have hopen := trim_append_cons (c := '[') (by decide) [] (label ++ ']' :: body)
    rwa [trimEnd_append_cons (by decide), trimStart_nil] at hopen
  rw [clean_of_not_mem hline, htrim, pieces_of_cut (cutAt_append hlabel), trim_trimEnd]

/-- Texts with an arrow between them; the left one may be any without an arrow. -/
theorem bodyPieces_trim_arrow {left : List Char} (h : cutAtWord arrow left = none)
    (right : List Char) :
    bodyPieces (trim (left ++ '-' :: '>' :: right)) =
      [.arrow (trimStart left) (trimEnd right)] := by
  have hright : trimEnd ('>' :: right) = '>' :: trimEnd right :=
    trimEnd_append_cons (by decide) [] right
  have hleft : cutAtWord arrow (trimStart left) = none := by
    obtain ⟨lead, _, he⟩ := exists_eq_trimStart left
    rw [he] at h
    exact cutAtWord_eq_none_of_append lead h
  rw [trim_append_cons (by decide), hright]
  exact bodyPieces_of_some (cutAtWord_pair_append (by decide) hleft (trimEnd right))

/-! ### Reading pieces -/

namespace State

/-- The section after one more piece. -/
def readPiece (q : State) : Piece → Except Failure State
  | .opening label line =>
    match q.unfinished? with
    | some e => .error e
    | none => .ok { q with block := some ⟨label, line, 0⟩ }
  | .unclosed line =>
    match q.unfinished? with
    | some e => .error e
    | none => .error (.missingSeparator .bracket (String.ofList line))
  | .arrow left right =>
    .ok ⟨q.nextLabel.2, .start q.nextLabel.1 left right :: q.equations⟩
  | .text line =>
    match q.equations with
    | e :: es =>
      if q.mayContinue then .ok { q with equations := e.continueWith line :: es }
      else .error (.missingSeparator .arrow (String.ofList line))
    | [] => .error (.missingSeparator .arrow (String.ofList line))

theorem readPiece_opening_eq_ok_iff {q r : State} {label line : List Char} :
    q.readPiece (.opening label line) = .ok r ↔
      q.unfinished? = none ∧ r = { q with block := some ⟨label, line, 0⟩ } := by
  rw [readPiece]
  cases q.unfinished? with
  | some e => simp
  | none => simp [eq_comm]

theorem readPiece_unclosed_ne_ok (q r : State) (line : List Char) :
    q.readPiece (.unclosed line) ≠ .ok r := by
  rw [readPiece]
  cases q.unfinished? <;> exact nofun

theorem readPiece_text_eq_ok_iff {q r : State} {line : List Char} :
    q.readPiece (.text line) = .ok r ↔
      q.mayContinue = true ∧ ∃ e es, q.equations = e :: es ∧
        r = { q with equations := e.continueWith line :: es } := by
  rw [readPiece]
  cases q.equations with
  | nil => simp
  | cons e es =>
    cases q.mayContinue with
    | false => simp
    | true =>
      constructor
      · intro h
        exact ⟨rfl, e, es, rfl, (Except.ok.inj h).symm⟩
      · rintro ⟨-, e', es', he, rfl⟩
        obtain ⟨rfl, rfl⟩ := List.cons.inj he
        rfl

/-- The section after more pieces. -/
def run (q : State) (ps : List Piece) : Except Failure State := ps.foldlM readPiece q

@[simp] theorem run_nil (q : State) : q.run [] = .ok q := rfl

theorem run_cons (q : State) (p : Piece) (ps : List Piece) :
    q.run (p :: ps) = (q.readPiece p).bind fun r => r.run ps := rfl

@[simp] theorem run_singleton (q : State) (p : Piece) : q.run [p] = q.readPiece p := by
  rw [run_cons]
  cases q.readPiece p <;> rfl

/-- **Pieces are read from left to right.** -/
theorem run_append (q : State) (ps qs : List Piece) :
    q.run (ps ++ qs) = (q.run ps).bind fun r => r.run qs :=
  List.foldlM_append

theorem exists_of_run_append {q r : State} {ps qs : List Piece} (h : q.run (ps ++ qs) = .ok r) :
    ∃ q', q.run ps = .ok q' ∧ q'.run qs = .ok r := by
  rw [run_append] at h
  exact exists_of_bind h

theorem readBody_eq (q : State) {body : List Char} (h : body ≠ []) :
    q.readBody body = q.run (bodyPieces body) := by
  cases hc : cutAtWord arrow body with
  | some p =>
    rw [bodyPieces_of_some hc, run_singleton]
    rw [arrow] at hc
    simp only [readBody, hc, readPiece]
  | none =>
    rw [bodyPieces_of_none h hc, run_singleton]
    rw [arrow] at hc
    cases hq : q.equations <;> simp only [readBody, hc, readPiece, hq]

theorem openBlock_eq (q : State) (rest : List Char) :
    q.openBlock ('[' :: rest) rest = q.run (pieces ('[' :: rest)) := by
  cases hc : cutAt ']' rest with
  | none =>
    cases hq : q.unfinished? <;> simp only [pieces, hc, run_singleton, readPiece, openBlock, hq]
  | some p =>
    obtain ⟨label, body⟩ := p
    rw [pieces_of_cut hc, run_cons, readPiece, openBlock]
    cases q.unfinished? with
    | some e => rfl
    | none =>
      simp only [hc]
      by_cases hb : trim body = []
      · rw [if_pos hb, hb, bodyPieces_nil]
        rfl
      · rw [if_neg hb, readBody_eq _ hb]
        rfl

theorem readClean_eq (q : State) (line : List Char) : q.readClean line = q.run (pieces line) := by
  unfold readClean
  split
  · rw [pieces_nil, run_nil]
  · exact openBlock_eq q _
  next hne hb =>
    rw [readBody_eq q hne, pieces_of_head]
    intro hh
    cases line with
    | nil => exact hne rfl
    | cons c s => exact hb s (by simpa using hh)

theorem readAll_eq (q : State) (lines : List (List Char)) :
    q.readAll (lines.map clean) = q.run (sectionPieces lines) := by
  induction lines generalizing q with
  | nil => rfl
  | cons line lines ih =>
    rw [List.map_cons, readAll, readClean_eq, sectionPieces_cons, run_append]
    congr 1
    exact funext ih

theorem finish_eq_ok_iff {q : State} {es : List SubEquation} :
    q.finish = .ok es ↔ q.unfinished? = none ∧ es = q.equations.reverse := by
  rw [finish]
  cases q.unfinished? with
  | some e => simp
  | none => simp [eq_comm]

theorem finish_eq_error_iff {q : State} {e : Failure} :
    q.finish = .error e ↔ q.unfinished? = some e := by
  rw [finish]
  cases q.unfinished? <;> simp

end State

/-- **Collecting the equations of a section is reading its pieces.** -/
theorem collect_eq (lines : List (List Char)) :
    collect lines = (State.start.run (sectionPieces lines)).bind State.finish := by
  rw [collect, State.readAll_eq]

theorem translate_congr {ls ms : List (List Char)} (h : sectionPieces ls = sectionPieces ms) :
    translate ls = translate ms := by
  rw [translate, translate, collect_eq, collect_eq, h]

end AtmosChem.Mozart
