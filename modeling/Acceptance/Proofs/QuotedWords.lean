import Acceptance.Command.Template

namespace Acceptance.Command

namespace Scan

-- A command that is shown can be read back. Writing a word chooses a style for each of its
-- pieces; the splitter undoes every style without being told which one it is.

variable {scan : Scan} {c : Char} {piece : List Char}

def Open (scan : Scan) : Prop := scan.mode = .between ∨ scan.mode = .word

theorem push_open (scan : Scan) (text : List Char) : (scan.push .word text).Open := .inr rfl

theorem push_push (scan : Scan) (mode mode' : Mode) (first second : List Char) :
    (scan.push mode first).push mode' second = scan.push mode' (first ++ second) := by
  simp [push]

theorem enter_push (scan : Scan) (mode mode' : Mode) (text : List Char) :
    (scan.enter mode).push mode' text = scan.push mode' text := rfl

theorem step_open (open_ : scan.Open) (word : isSeparator c = false) (sign : c ≠ '#') :
    scan.step c = scan.plain c := by
  rcases open_ with mode | mode <;> simp [step, mode, word, sign]

theorem step_bare (open_ : scan.Open) (bare : isBare c) : scan.step c = scan.push .word [c] := by
  have differs : ∀ {other : Char}, isBare other = false → c ≠ other := by
    rintro other special rfl
    simp [special] at bare
  have word : isSeparator c = false := by
    simp [isSeparator, differs (show isBare ' ' = false by decide),
      differs (show isBare '\t' = false by decide), differs (show isBare '\n' = false by decide)]
  rw [step_open open_ word (differs (by decide))]
  simp [plain, word, differs (show isBare '"' = false by decide),
    differs (show isBare '\'' = false by decide), differs (show isBare '\\' = false by decide)]

theorem step_quote (open_ : scan.Open) : scan.step '\'' = scan.enter .single := by
  rw [step_open open_ (by decide) (by decide)]
  rfl

theorem step_marks (open_ : scan.Open) : scan.step '"' = scan.enter .double := by
  rw [step_open open_ (by decide) (by decide)]
  rfl

theorem foldl_bare (open_ : scan.Open) (bare : ∀ c ∈ piece, isBare c) (filled : piece ≠ []) :
    piece.foldl step scan = scan.push .word piece := by
  induction piece generalizing scan with
  | nil => exact (filled rfl).elim
  | cons c rest ih =>
      rw [List.foldl_cons, step_bare open_ (bare c List.mem_cons_self)]
      cases rest with
      | nil => rfl
      | cons next rest =>
          rw [ih (push_open scan [c]) (fun c member => bare c (List.mem_cons_of_mem _ member))
            (by simp), push_push]
          rfl

theorem foldl_single (mode : scan.mode = .single) (free : '\'' ∉ piece) :
    piece.foldl step scan = scan.push .single piece := by
  induction piece generalizing scan with
  | nil => simp [push, ← mode]
  | cons c rest ih =>
      rw [List.mem_cons, not_or] at free
      have stepped : scan.step c = scan.push .single [c] := by
        simp [step, mode, Ne.symm free.1]
      rw [List.foldl_cons, stepped, ih rfl free.2, push_push]
      rfl

-- A backslash is written before the two characters that need one, and before no other.
theorem foldl_escape (mode : scan.mode = .double) (c : Char) :
    (escapeInDouble c).foldl step scan = scan.push .double [c] := by
  unfold escapeInDouble
  by_cases marks : c = '"'
  · simp [marks, step, mode, enter, push]
  by_cases slash : c = '\\'
  · simp [slash, step, mode, enter, push]
  · simp [marks, slash, step, mode]

theorem foldl_double (mode : scan.mode = .double) (piece : List Char) :
    (piece.flatMap escapeInDouble).foldl step scan = scan.push .double piece := by
  induction piece generalizing scan with
  | nil => simp [push, ← mode]
  | cons c rest ih =>
      rw [List.flatMap_cons, List.foldl_append, foldl_escape mode, ih rfl, push_push]
      rfl

end Scan

-- What a piece must be like to stand in a style. Between double quotes anything can.
def Style.Carries : Style → List Char → Prop
  | .bare, piece => piece ≠ [] ∧ ∀ c ∈ piece, isBare c
  | .single, piece => '\'' ∉ piece
  | .double, _ => True

theorem Scan.foldl_write {scan : Scan} {style : Style} {piece : List Char} (open_ : scan.Open)
    (carries : style.Carries piece) :
    (style.write piece).foldl Scan.step scan = scan.push .word piece := by
  cases style with
  | bare => exact foldl_bare open_ carries.2 carries.1
  | single =>
      rw [Style.write, List.foldl_cons, List.foldl_append, step_quote open_,
        foldl_single rfl carries, enter_push]
      rfl
  | double =>
      rw [Style.write, List.foldl_cons, List.foldl_append, step_marks open_, foldl_double rfl,
        enter_push]
      rfl

-- The styles that are still open for a piece can carry it.
structure Styles.Fit (styles : Styles) (piece : List Char) : Prop where
  filled : piece ≠ []
  bare : styles.bare → ∀ c ∈ piece, isBare c
  single : styles.single → '\'' ∉ piece

namespace Styles

variable {styles : Styles} {piece : List Char} {c : Char}

theorem Fit.best (fit : styles.Fit piece) : styles.best.Carries piece := by
  unfold Styles.best
  split
  · exact ⟨fit.filled, fit.bare ‹_›⟩
  · split
    · exact fit.single ‹_›
    · trivial

theorem Fit.reverse (fit : styles.Fit piece) : styles.Fit piece.reverse where
  filled := by simpa using fit.filled
  bare open_ := by simpa using fit.bare open_
  single open_ := by simpa using fit.single open_

theorem opening_fit (c : Char) : (opening c).Fit [c] := by
  unfold opening
  split
  · rename_i caret
    subst caret
    exact ⟨by simp, nofun, fun _ => by decide⟩
  · refine ⟨by simp, fun bare => by simpa [holding] using bare, fun single => ?_⟩
    simp only [holding, Bool.and_eq_true, bne_iff_ne] at single
    simpa using Ne.symm single.1.1

theorem Fit.meet (fit : styles.Fit piece) (c : Char) :
    (styles.meet (holding c)).Fit (c :: piece) where
  filled := by simp
  bare open_ := by
    simp only [Styles.meet, holding, Bool.and_eq_true] at open_
    simpa using ⟨open_.2, fit.bare open_.1⟩
  single open_ := by
    simp only [Styles.meet, holding, Bool.and_eq_true, bne_iff_ne] at open_
    simpa using ⟨Ne.symm open_.2.1.1, fit.single open_.1⟩

end Styles

theorem pieces_carry (done : List (Style × List Char)) {styles : Styles} {piece : List Char}
    (fit : styles.Fit piece) (carried : ∀ part ∈ done, part.1.Carries part.2) (rest : List Char) :
    (∀ part ∈ pieces done styles piece rest, part.1.Carries part.2) ∧
      (pieces done styles piece rest).flatMap (·.2) =
        done.reverse.flatMap (·.2) ++ piece.reverse ++ rest := by
  induction rest generalizing done styles piece with
  | nil =>
      refine ⟨fun part member => ?_, by simp [pieces]⟩
      simp only [pieces, List.mem_reverse, List.mem_cons] at member
      rcases member with rfl | member
      · exact fit.reverse.best
      · exact carried part member
  | cons c rest ih =>
      rw [pieces]
      split
      · have closed : ∀ part ∈ (styles.best, piece.reverse) :: done, part.1.Carries part.2 := by
          intro part member
          rcases List.mem_cons.mp member with rfl | member
          · exact fit.reverse.best
          · exact carried part member
        obtain ⟨carry, whole⟩ := ih _ (Styles.opening_fit c) closed
        exact ⟨carry, by simp [whole]⟩
      · obtain ⟨carry, whole⟩ := ih _ (fit.meet c) carried
        exact ⟨carry, by simp [whole]⟩

theorem Scan.foldl_pieces {scan : Scan} {parts : List (Style × List Char)}
    (carried : ∀ part ∈ parts, part.1.Carries part.2) (open_ : scan.Open) (filled : parts ≠ []) :
    (parts.flatMap fun part => part.1.write part.2).foldl Scan.step scan =
      scan.push .word (parts.flatMap (·.2)) := by
  induction parts generalizing scan with
  | nil => exact (filled rfl).elim
  | cons part parts ih =>
      rw [List.flatMap_cons, List.foldl_append, foldl_write open_ (carried part List.mem_cons_self)]
      cases parts with
      | nil => simp
      | cons next parts =>
          rw [ih (fun part member => carried part (List.mem_cons_of_mem _ member))
            (push_open _ _) (by simp), push_push]
          rfl

-- A written word adds that word to what has been read, whatever its characters are.
theorem Scan.foldl_quote {scan : Scan} (open_ : scan.Open) (word : List Char) :
    (quote word).foldl Scan.step scan = scan.push .word word := by
  cases word with
  | nil =>
      rw [quote, List.foldl_cons, step_quote open_]
      rfl
  | cons c rest =>
      obtain ⟨carried, whole⟩ := pieces_carry [] (Styles.opening_fit c) (by simp) rest
      have filled : pieces [] (.opening c) [c] rest ≠ [] := by
        intro empty
        simp [empty] at whole
      refine (foldl_pieces carried open_ filled).trans ?_
      rw [whole]
      rfl

theorem Scan.foldl_line (earlier : List (List Char)) (word : List Char)
    (words : List (List Char)) :
    (([' '].intercalate ((word :: words).map quote)).foldl Scan.step
      { words := earlier }).finish? = some (earlier.reverse ++ word :: words) := by
  induction words generalizing earlier word with
  | nil =>
      simp only [List.map_cons, List.map_nil, List.intercalate_singleton]
      rw [foldl_quote (.inl rfl)]
      simp [finish?, push]
  | cons next words ih =>
      have ended : Scan.step (Scan.push { words := earlier } .word word) ' ' =
          { words := word :: earlier } := by
        simp [step, push, plain, isSeparator, endWord]
      rw [List.map_cons, List.map_cons, List.intercalate_cons_cons, List.foldl_append,
        List.foldl_append, foldl_quote (.inl rfl), List.foldl_cons, List.foldl_nil, ended,
        ← List.map_cons, ih]
      simp

theorem split_quoted (words : List (List Char)) :
    split? ([' '].intercalate (words.map quote)) = some words := by
  cases words with
  | nil => rfl
  | cons word words => exact Scan.foldl_line [] word words

theorem display_toList {word : String} (clean : '\x00' ∉ word.toList) :
    (display word).toList = quote word.toList := by
  simp [display, clean]

-- Whatever stands in a command, splitting what is shown of it gives back its words.
theorem Template.split_render (template : Template) (bindings : Bindings)
    (clean : ∀ word ∈ template.program :: template.fill bindings, '\x00' ∉ word.toList) :
    split? (template.render bindings).toList =
      some ((template.program :: template.fill bindings).map String.toList) := by
  have shown : ((template.program :: template.fill bindings).map display).map String.toList =
      ((template.program :: template.fill bindings).map String.toList).map quote := by
    rw [List.map_map, List.map_map]
    exact List.map_congr_left fun word member => display_toList (clean word member)
  rw [Template.render, String.toList_intercalate, shown]
  exact split_quoted _

namespace Awkward

def line : String := "'do it' '' '#1' 'a\nb' \"it's\" '\"^\"' '$x`\\' \x7bcase\x7d"

def template : Template where
  program := "do it"
  arguments := ["", "#1", "a\nb", "it's", "\"^\"", "$x`\\", "\x7bcase\x7d"]

def bindings : Bindings := [("\x7bcase\x7d".toList, "'01\\ add'".toList)]

end Awkward

theorem Template.split_render_awkward :
    Template.parse? {} Awkward.line = some Awkward.template ∧
      split? (Awkward.template.render Awkward.bindings).toList =
        some (["do it", "", "#1", "a\nb", "it's", "\"^\"", "$x`\\", "'01\\ add'"].map
          String.toList) := by
  have filled : Awkward.template.fill Awkward.bindings =
    ["", "#1", "a\nb", "it's", "\"^\"", "$x`\\", "'01\\ add'"] := by decide +kernel
  refine ⟨by decide +kernel, ?_⟩
  rw [Template.split_render Awkward.template Awkward.bindings (by rw [filled]; decide), filled]
  rfl

end Acceptance.Command
