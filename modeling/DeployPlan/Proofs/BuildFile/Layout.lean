import DeployPlan.BuildFile
import DeployPlan.Proofs.Text.Blanks
import Mathlib.Logic.Relation

/-!
# The layout of a build file

Only the words of the logical lines count (`parse_eq_logicalWords`). `logicalWords` finds them line
by line, so what happens at a boundary between lines depends on the words of the line that goes on
there and on nothing else before it (`logicalWords_append`). `LayoutEdit` are the changes to
the lines that keep these words: comments, blank lines, instructions that go on in the next line,
and blanks around lines. `parse_relaid` says that none of them changes what is read. A line must not
be broken before a `#`, whatever blanks stand between (`broken_before_comment`).
-/

namespace DeployPlan.BuildFile

open Text (Blanks)

/-! ## Lines -/

/-- A line of a text. -/
structure Line where
  chars : List Char
  newline_not_mem : '\n' ∉ chars

/-- The text that consists of some lines. If it ends in a line feed, its last line is empty. -/
def textOf (lines : List Line) : String :=
  String.ofList (Text.joinWith '\n' (lines.map (·.chars)))

/-- The text that consists of some lines, with a carriage return before each line feed. -/
def crlfTextOf (lines : List Line) : String :=
  String.ofList (['\r', '\n'].intercalate (lines.map (·.chars)))

/-- A comment: a number sign, with nothing but blanks before it. -/
def IsComment (line : List Char) : Prop :=
  ∃ front text, line = front ++ '#' :: text ∧ Blanks front

/-- A line that goes on in the next one: it has a backslash at its end, apart from blanks. -/
def GoesOn (line : List Char) : Prop :=
  ∃ part back, line = part ++ '\\' :: back ∧ Blanks back

/-- What follows these lines continues an instruction: the last one of them that is no comment goes
on. -/
def Continued (lines : List (List Char)) : Prop :=
  ∃ front line comments, lines = front ++ line :: comments ∧ ¬ IsComment line ∧ GoesOn line ∧
    ∀ comment ∈ comments, IsComment comment

/-- A change of the lines of a build file that concerns its layout only. -/
inductive LayoutEdit : List Line → List Line → Prop
  /-- A comment is inserted. -/
  | comment (before after : List Line) {line : Line} (h : IsComment line.chars) :
      LayoutEdit (before ++ after) (before ++ line :: after)
  /-- A blank line is inserted outside of an instruction that goes on. -/
  | blank (before after : List Line) {line : Line} (h : Blanks line.chars)
      (hc : ¬ Continued (before.map (·.chars))) :
      LayoutEdit (before ++ after) (before ++ line :: after)
  /-- An instruction is broken at some blanks and goes on in the next line. -/
  | wrap (before after : List Line) {line first second : Line} {a w b : List Char}
      (hl : line.chars = a ++ w ++ b) (hf : first.chars = a ++ [' ', '\\'])
      (hs : second.chars = b) (hc : ¬ IsComment line.chars) (ha : ¬ Blanks a) (hw : Blanks w)
      (hn : w ≠ []) (hb : ¬ Blanks b) (hcb : ¬ IsComment b) :
      LayoutEdit (before ++ line :: after) (before ++ first :: second :: after)
  /-- Blanks, which a carriage return is as well, are put around a line. -/
  | pad (before after : List Line) {line padded : Line} {front back : List Char}
      (hp : padded.chars = front ++ line.chars ++ back) (hf : Blanks front) (hb : Blanks back) :
      LayoutEdit (before ++ line :: after) (before ++ padded :: after)

theorem isComment_iff {line : List Char} : IsComment line ↔ (Text.trim line).head? = some '#' := by
  rw [Text.head?_trim]
  constructor
  · rintro ⟨front, text, rfl, hf⟩
    rw [Text.trimStart_append_of_blanks hf, Text.trimStart_cons_of_not_isBlank (by decide)]
    rfl
  · intro h
    obtain ⟨text, ht⟩ := List.head?_eq_some_iff.mp h
    obtain ⟨front, hf, hline⟩ := Text.exists_blanks_trimStart line
    exact ⟨front, text, by rw [← hline, ht], hf⟩

instance (line : List Char) : Decidable (IsComment line) :=
  decidable_of_iff _ isComment_iff.symm

theorem goesOn_of_stripTail? {line part : List Char}
    (h : Text.stripTail? ['\\'] (Text.trim line) = some part) : GoesOn line := by
  rw [Text.stripTail?_eq_some_iff] at h
  obtain ⟨front, -, hfront⟩ := Text.exists_blanks_trimStart line
  obtain ⟨back, hb, hback⟩ := Text.exists_blanks_trimEnd (Text.trimStart line)
  refine ⟨front ++ part, back, ?_, hb⟩
  rw [Text.trim] at h
  rw [← hfront, ← hback, h]
  simp

/-! ## The words of logical lines -/

/-- The words of the logical lines that some lines make after a line that goes on, if there is one,
with the words `pending`; logical lines without words are left out. -/
def logicalWords (pending : Option (List (List Char))) :
    List (List Char) → List (List (List Char))
  | [] => pending.toList.filter (· ≠ [])
  | raw :: rest =>
    if IsComment raw ∨ Blanks raw ∧ pending = none then logicalWords pending rest
    else
      match Text.stripTail? ['\\'] (Text.trim raw) with
      | some part => logicalWords (some (pending.getD [] ++ Text.words part)) rest
      | none =>
        [pending.getD [] ++ Text.words raw].filter (· ≠ []) ++ logicalWords none rest

section LogicalWords

variable {pending : Option (List (List Char))} {line line' part a b w : List Char}
  {rest : List (List Char)}

theorem logicalWords_comment (h : IsComment line) :
    logicalWords pending (line :: rest) = logicalWords pending rest := by
  rw [logicalWords, if_pos (.inl h)]

theorem logicalWords_blank (h : Blanks line) :
    logicalWords none (line :: rest) = logicalWords none rest := by
  rw [logicalWords, if_pos (.inr ⟨h, rfl⟩)]

theorem logicalWords_goesOn (hc : ¬ IsComment line)
    (h : Text.stripTail? ['\\'] (Text.trim line) = some part) :
    logicalWords pending (line :: rest) =
      logicalWords (some (pending.getD [] ++ Text.words part)) rest := by
  have hb : ¬ Blanks line := by
    rw [← Text.trim_eq_nil_iff, Text.stripTail?_eq_some_iff.mp h]
    simp
  rw [logicalWords, if_neg (by simp [hc, hb]), h]

theorem logicalWords_ends (hc : ¬ IsComment line) (hb : Blanks line → pending ≠ none)
    (h : Text.stripTail? ['\\'] (Text.trim line) = none) :
    logicalWords pending (line :: rest) =
      [pending.getD [] ++ Text.words line].filter (· ≠ []) ++ logicalWords none rest := by
  rw [logicalWords, if_neg (not_or_intro hc fun hh => hb hh.1 hh.2), h]

theorem logicalWords_congr (h : Text.trim line = Text.trim line') :
    logicalWords pending (line :: rest) = logicalWords pending (line' :: rest) := by
  have hc : IsComment line ↔ IsComment line' := by rw [isComment_iff, isComment_iff, h]
  have hb : Blanks line ↔ Blanks line' := by
    rw [← Text.trim_eq_nil_iff, ← Text.trim_eq_nil_iff, h]
  have hw : Text.words line = Text.words line' := by
    rw [← Text.words_trim line, ← Text.words_trim line', h]
  simp only [logicalWords, hc, hb, hw, h]

theorem exists_trim_append (ha : ¬ Blanks a) (hb : ¬ Blanks b) (hw : Blanks w) (hn : w ≠ []) :
    ∃ v, Blanks v ∧ v ≠ [] ∧ Text.trim (a ++ w ++ b) = Text.trimStart a ++ v ++ Text.trim b := by
  obtain ⟨front, hf, hfront⟩ := Text.exists_blanks_trimStart b
  have hrest : ¬ Blanks (Text.trimStart b) := fun h => hb <| by
    rw [← hfront]
    exact Text.blanks_append_iff.mpr ⟨hf, h⟩
  refine ⟨w ++ front, Text.blanks_append_iff.mpr ⟨hw, hf⟩, by simp [hn], ?_⟩
  have hwb : ¬ Blanks (w ++ b) := fun h => hb (Text.blanks_append_iff.mp h).2
  have hend : Text.trimEnd b = front ++ Text.trim b := by
    rw [Text.trim, ← Text.trimEnd_append hrest, hfront]
  rw [List.append_assoc, Text.trim_append ha hwb, Text.trimEnd_append hb, hend]
  simp only [List.append_assoc]

/-- Breaking a line at blanks changes no words, if the second part is no comment then. -/
theorem logicalWords_wrap (hc : ¬ IsComment (a ++ w ++ b)) (ha : ¬ Blanks a) (hw : Blanks w)
    (hn : w ≠ []) (hb : ¬ Blanks b) (hcb : ¬ IsComment b) :
    logicalWords pending ((a ++ w ++ b) :: rest) =
      logicalWords pending ((a ++ [' ', '\\']) :: b :: rest) := by
  obtain ⟨v, hv, hvn, htrim⟩ := exists_trim_append ha hb hw hn
  have hbn : Text.trim b ≠ [] := fun h => hb (Text.trim_eq_nil_iff.mp h)
  obtain ⟨c, start, hstart⟩ : ∃ c start, Text.trimStart a = c :: start :=
    List.exists_cons_of_ne_nil fun h => ha (Text.trimStart_eq_nil_iff.mp h)
  have hfirst : Text.trim (a ++ [' ', '\\']) = Text.trimStart a ++ [' '] ++ ['\\'] := by
    rw [Text.trim_append ha (by decide), List.append_assoc]
    rfl
  have hcf : ¬ IsComment (a ++ [' ', '\\']) := by
    rw [isComment_iff, htrim, hstart] at hc
    rw [isComment_iff, hfirst, hstart]
    exact hc
  have hpart : Text.words (Text.trimStart a ++ [' ']) = Text.words a := by
    rw [Text.words_append_of_blanks_right (by decide), Text.words_trimStart]
  rw [logicalWords_goesOn hcf (Text.stripTail?_eq_some_iff.mpr hfirst), hpart]
  have hlast : Text.stripTail? ['\\'] (Text.trim (a ++ w ++ b)) =
      (Text.stripTail? ['\\'] (Text.trim b)).map (Text.trimStart a ++ v ++ ·) := by
    rw [htrim, Text.stripTail?_append hbn]
  have hjoin (s : List Char) :
      Text.words (Text.trimStart a ++ v ++ s) = Text.words a ++ Text.words s := by
    rw [Text.words_append_blanks_append hv hvn, Text.words_trimStart]
  cases hs : Text.stripTail? ['\\'] (Text.trim b) with
  | some part =>
    rw [hs] at hlast
    rw [logicalWords_goesOn hc hlast, logicalWords_goesOn hcb hs, hjoin, Option.getD_some,
      List.append_assoc]
  | none =>
    rw [hs] at hlast
    have hblank : ¬ Blanks (a ++ w ++ b) := fun h => hb (Text.blanks_append_iff.mp h).2
    rw [logicalWords_ends hc (fun h => absurd h hblank) hlast,
      logicalWords_ends hcb (fun h => absurd h hb) hs,
      Text.words_append_blanks_append hw hn, Option.getD_some, List.append_assoc]

/-- The words of the line that goes on after some lines, if there is one. -/
def pendingAfter (pending : Option (List (List Char))) :
    List (List Char) → Option (List (List Char))
  | [] => pending
  | raw :: rest =>
    if IsComment raw then pendingAfter pending rest
    else
      pendingAfter
        ((Text.stripTail? ['\\'] (Text.trim raw)).map (pending.getD [] ++ Text.words ·)) rest

/-- After some lines only the words of a line that goes on are left to do. -/
theorem logicalWords_append (pending : Option (List (List Char))) (before : List (List Char)) :
    ∃ done, ∀ rest, logicalWords pending (before ++ rest) =
      done ++ logicalWords (pendingAfter pending before) rest := by
  induction before generalizing pending with
  | nil => exact ⟨[], fun _ => rfl⟩
  | cons line before ih =>
    rw [pendingAfter]
    by_cases hc : IsComment line
    · rw [if_pos hc]
      obtain ⟨done, hdone⟩ := ih pending
      exact ⟨done, fun rest => by rw [List.cons_append, logicalWords_comment hc, hdone]⟩
    rw [if_neg hc]
    cases hs : Text.stripTail? ['\\'] (Text.trim line) with
    | some part =>
      obtain ⟨done, hdone⟩ := ih (some (pending.getD [] ++ Text.words part))
      exact ⟨done, fun rest => by rw [List.cons_append, logicalWords_goesOn hc hs, hdone]; rfl⟩
    | none =>
      obtain ⟨done, hdone⟩ := ih none
      by_cases hb : Blanks line ∧ pending = none
      · obtain ⟨hb, rfl⟩ := hb
        exact ⟨done, fun rest => by rw [List.cons_append, logicalWords_blank hb, hdone]; rfl⟩
      · refine ⟨[pending.getD [] ++ Text.words line].filter (· ≠ []) ++ done, fun rest => ?_⟩
        rw [List.cons_append, logicalWords_ends hc (fun h hp => hb ⟨h, hp⟩) hs, hdone,
          List.append_assoc]
        rfl

/-- A line goes on after some lines only if they continue an instruction, or if they are comments
and one went on before. -/
theorem continued_of_pendingAfter {before : List (List Char)}
    (h : pendingAfter pending before ≠ none) :
    Continued before ∨ pending ≠ none ∧ ∀ line ∈ before, IsComment line := by
  induction before generalizing pending with
  | nil => exact .inr ⟨h, nofun⟩
  | cons line before ih =>
    have hcons (h : Continued before) : Continued (line :: before) := by
      obtain ⟨front, last, comments, rfl, hlast⟩ := h
      exact ⟨line :: front, last, comments, rfl, hlast⟩
    rw [pendingAfter] at h
    by_cases hc : IsComment line
    · rw [if_pos hc] at h
      refine (ih h).imp hcons fun ⟨hp, hall⟩ => ⟨hp, ?_⟩
      exact List.forall_mem_cons.mpr ⟨hc, hall⟩
    · rw [if_neg hc] at h
      refine .inl ((ih h).elim hcons fun ⟨hp, hall⟩ => ?_)
      cases hs : Text.stripTail? ['\\'] (Text.trim line) with
      | some part => exact ⟨[], line, before, rfl, hc, goesOn_of_stripTail? hs, hall⟩
      | none =>
        rw [hs] at hp
        exact absurd rfl hp

end LogicalWords

/-! ## Only the words count -/

/-- The logical lines have these words, if what goes on ends in a blank. -/
theorem filter_words_logicalFrom {current : List Char}
    (h : ∀ c ∈ current.getLast?, Text.isBlank c = true) (lines : List (List Char)) :
    ((logicalFrom current lines).map Text.words).filter (· ≠ []) =
      logicalWords (if current = [] then none else some (Text.words current)) lines := by
  have hget (current : List Char) :
      (if current = [] then none else some (Text.words current)).getD [] = Text.words current := by
    split
    · rename_i hn
      rw [hn]
      rfl
    · rfl
  induction lines generalizing current with
  | nil =>
    rw [logicalFrom, logicalWords]
    by_cases hn : current = []
    · rw [hn]
      rfl
    by_cases ht : Text.trim current = []
    · rw [if_pos ht, if_neg hn, Text.words_eq_nil_of_blanks (Text.trim_eq_nil_iff.mp ht)]
      rfl
    · rw [if_neg ht, if_neg hn]
      rfl
  | cons raw rest ih =>
    rw [logicalFrom]
    by_cases hc : IsComment raw
    · rw [if_pos (.inl (isComment_iff.mp hc)), logicalWords_comment hc, ih h]
    have hhead : (Text.trim raw).head? ≠ some '#' := fun hh => hc (isComment_iff.mpr hh)
    by_cases hb : Text.trim raw = [] ∧ current = []
    · rw [if_pos (.inr hb), ih h, if_pos hb.2, logicalWords_blank (Text.trim_eq_nil_iff.mp hb.1)]
    rw [if_neg (not_or_intro hhead hb)]
    cases hs : Text.stripTail? ['\\'] (Text.trim raw) with
    | some part =>
      have hwords : Text.words (current ++ part ++ [' ']) = Text.words current ++ Text.words part := by
        rw [Text.words_append_of_blanks_right (by decide), Text.words_append_of_getLast? h]
      show ((logicalFrom (current ++ part ++ [' ']) rest).map Text.words).filter _ = _
      rw [logicalWords_goesOn hc hs, hget, ih (by simp; decide), if_neg (by simp), hwords]
    | none =>
      have hwords : Text.words (current ++ Text.trim raw) =
          Text.words current ++ Text.words raw := by
        rw [Text.words_append_of_getLast? h, Text.words_trim]
      have hblank : Blanks raw → (if current = [] then none else some (Text.words current)) ≠ none := by
        intro hr hn
        exact hb ⟨Text.trim_eq_nil_iff.mpr hr, by simpa using hn⟩
      show (((current ++ Text.trim raw) :: logicalFrom [] rest).map Text.words).filter _ = _
      rw [logicalWords_ends hc hblank hs, hget, List.map_cons, ← List.singleton_append,
        List.filter_append, ih (by simp), if_pos rfl, hwords]

/-- Lines without words are followed without effect. -/
theorem foldlM_follow_filter (lines : List (List (List Char))) (p : Progress) :
    (lines.map instructionOf).foldlM follow p =
      ((lines.filter (· ≠ [])).map instructionOf).foldlM follow p := by
  induction lines generalizing p with
  | nil => rfl
  | cons words lines ih =>
    cases words with
    | nil =>
      rw [List.map_cons, List.foldlM_cons, List.filter_cons_of_neg (by simp), ← ih]
      rfl
    | cons keyword words =>
      rw [List.map_cons, List.foldlM_cons, List.filter_cons_of_pos (by simp), List.map_cons,
        List.foldlM_cons]
      exact congrArg (_ >>= ·) (funext ih)

/-- A build file is read by the words of its logical lines. -/
theorem parse_eq_logicalWords (content : String) :
    parse content =
      (((logicalWords none (Text.lines content.toList)).map instructionOf).foldlM follow {}).map
        (·.current) := by
  have hnil : ∀ c ∈ ([] : List Char).getLast?, Text.isBlank c = true := by simp
  have hwords := filter_words_logicalFrom hnil (Text.lines content.toList)
  rw [if_pos rfl] at hwords
  rw [← hwords, ← foldlM_follow_filter, List.map_map]
  rfl

/-! ## Texts of lines -/

section Texts

variable {lines lines' : List (List Char)}

/-- Lines count without the blanks around them. -/
theorem logicalWords_of_map_trim (h : lines.map Text.trim = lines'.map Text.trim)
    (pending : Option (List (List Char))) :
    logicalWords pending lines = logicalWords pending lines' := by
  induction lines generalizing lines' pending with
  | nil => rw [List.map_eq_nil_iff.mp h.symm]
  | cons line lines ih =>
    cases lines' with
    | nil => cases h
    | cons line' lines' =>
      obtain ⟨hline, hlines⟩ := List.cons.inj h
      rw [logicalWords_congr hline]
      simp only [logicalWords, ih hlines]

theorem logicalWords_concat_nil (pending : Option (List (List Char))) (lines : List (List Char)) :
    logicalWords pending (lines ++ [[]]) = logicalWords pending lines := by
  have hlast (later : Option (List (List Char))) :
      logicalWords later [[]] = logicalWords later [] := by
    cases later with
    | none => exact logicalWords_blank Text.blanks_nil
    | some words =>
      have hc : ¬ IsComment [] := by decide
      rw [logicalWords_ends hc (by simp) rfl, Text.words_nil, List.append_nil]
      exact List.append_nil _
  obtain ⟨done, hdone⟩ := logicalWords_append pending lines
  rw [hdone, hlast, ← hdone, List.append_nil]

/-- The lines of a text that is made of lines; a carriage return before a line feed is lost. -/
theorem lines_joinWith_concat {init : List (List Char)} {last : List Char}
    (h : ∀ line ∈ init ++ [last], '\n' ∉ line) :
    Text.lines (Text.joinWith '\n' (init ++ [last])) =
      (init.map fun line => if line.getLast? = some '\r' then line.dropLast else line) ++
        if last = [] then [] else [last] := by
  rw [Text.lines, Text.splitOn_joinWith (by simp) h, List.dropLast_concat, List.getLast?_concat]
  cases last with
  | nil => simp
  | cons c last => simp

theorem logicalWords_lines (h : ∀ line ∈ lines, '\n' ∉ line) :
    logicalWords none (Text.lines (Text.joinWith '\n' lines)) = logicalWords none lines := by
  rcases List.eq_nil_or_concat lines with rfl | ⟨init, last, rfl⟩
  · rfl
  rw [List.concat_eq_append] at h ⊢
  have htrim (line : List Char) :
      Text.trim (if line.getLast? = some '\r' then line.dropLast else line) = Text.trim line := by
    split
    · rename_i hr
      obtain ⟨front, rfl⟩ := List.getLast?_eq_some_iff.mp hr
      rw [List.dropLast_concat]
      exact (Text.trim_pad Text.blanks_nil (by decide)).symm
    · rfl
  rw [lines_joinWith_concat h]
  by_cases hlast : last = []
  · rw [if_pos hlast, List.append_nil, hlast, logicalWords_concat_nil]
    exact logicalWords_of_map_trim (by simp [htrim]) none
  · rw [if_neg hlast]
    exact logicalWords_of_map_trim (by simp [htrim]) none

/-- Line ends with a carriage return are line ends after lines with a carriage return. -/
theorem exists_joinWith_of_crlf (h : ∀ line ∈ lines, '\n' ∉ line) :
    ∃ lines', ['\r', '\n'].intercalate lines = Text.joinWith '\n' lines' ∧
      (∀ line ∈ lines', '\n' ∉ line) ∧ lines'.map Text.trim = lines.map Text.trim := by
  induction lines with
  | nil => exact ⟨[], rfl, h, rfl⟩
  | cons line lines ih =>
    cases lines with
    | nil => exact ⟨[line], rfl, h, rfl⟩
    | cons next lines =>
      obtain ⟨hline, hrest⟩ := List.forall_mem_cons.mp h
      obtain ⟨lines', hjoin, hlines', htrim⟩ := ih hrest
      obtain ⟨next', lines', rfl⟩ : ∃ next' rest, lines' = next' :: rest := by
        cases lines' with
        | nil => cases htrim
        | cons next' rest => exact ⟨next', rest, rfl⟩
      refine ⟨(line ++ ['\r']) :: next' :: lines', ?_, ?_, ?_⟩
      · rw [Text.joinWith_cons_cons, ← hjoin, List.intercalate_cons_cons]
        simp
      · refine List.forall_mem_cons.mpr ⟨?_, hlines'⟩
        simpa using hline
      · have hpad : Text.trim (line ++ ['\r']) = Text.trim line :=
          @Text.trim_pad line [] ['\r'] Text.blanks_nil (by decide)
        exact List.cons_eq_cons.mpr ⟨hpad, htrim⟩

end Texts

theorem newline_not_mem_chars (lines : List Line) :
    ∀ line ∈ lines.map (·.chars), '\n' ∉ line := by
  intro line hline
  obtain ⟨l, -, rfl⟩ := List.mem_map.mp hline
  exact l.newline_not_mem

theorem parse_textOf (lines : List Line) :
    parse (textOf lines) =
      (((logicalWords none (lines.map (·.chars))).map instructionOf).foldlM follow {}).map
        (·.current) := by
  rw [parse_eq_logicalWords, textOf, String.toList_ofList,
    logicalWords_lines (newline_not_mem_chars lines)]

theorem parse_crlfTextOf (lines : List Line) : parse (crlfTextOf lines) = parse (textOf lines) := by
  obtain ⟨lines', hjoin, hlines', htrim⟩ :=
    exists_joinWith_of_crlf (newline_not_mem_chars lines)
  rw [parse_textOf, parse_eq_logicalWords, crlfTextOf, String.toList_ofList, hjoin,
    logicalWords_lines hlines', logicalWords_of_map_trim htrim]

/-! ## Changes of the layout -/

theorem LayoutEdit.logicalWords_eq {lines lines' : List Line} (h : LayoutEdit lines lines') :
    logicalWords none (lines.map (·.chars)) = logicalWords none (lines'.map (·.chars)) := by
  have hbefore (before : List Line) {rest rest' : List Line}
      (hrest : logicalWords (pendingAfter none (before.map (·.chars))) (rest.map (·.chars)) =
        logicalWords (pendingAfter none (before.map (·.chars))) (rest'.map (·.chars))) :
      logicalWords none ((before ++ rest).map (·.chars)) =
        logicalWords none ((before ++ rest').map (·.chars)) := by
    obtain ⟨done, hdone⟩ := logicalWords_append none (before.map (·.chars))
    rw [List.map_append, List.map_append, hdone, hdone, hrest]
  cases h with
  | comment before after h =>
    apply hbefore
    rw [List.map_cons, logicalWords_comment h]
  | blank before after h hc =>
    apply hbefore
    have hnone : pendingAfter none (before.map (·.chars)) = none := by
      refine Classical.byContradiction fun hp => hc ?_
      exact (continued_of_pendingAfter hp).resolve_right fun h => h.1 rfl
    rw [hnone, List.map_cons, logicalWords_blank h]
  | wrap before after hl hf hs hc ha hw hn hb hcb =>
    apply hbefore
    rw [List.map_cons, List.map_cons, List.map_cons, hf, hs, hl]
    rw [hl] at hc
    exact logicalWords_wrap hc ha hw hn hb hcb
  | pad before after hp hf hb =>
    apply hbefore
    rw [List.map_cons, List.map_cons, hp]
    exact logicalWords_congr (Text.trim_pad hf hb).symm

/-- Any number of changes of the layout, made or taken back anywhere, change nothing of what is read
from a build file, value or error, and neither does the kind of its line ends. -/
theorem parse_relaid {lines lines' : List Line} (h : Relation.EqvGen LayoutEdit lines lines') :
    parse (textOf lines) = parse (textOf lines') ∧
      parse (crlfTextOf lines) = parse (textOf lines') := by
  have hwords : logicalWords none (lines.map (·.chars)) =
      logicalWords none (lines'.map (·.chars)) := by
    induction h with
    | rel _ _ h => exact h.logicalWords_eq
    | refl => rfl
    | symm _ _ _ ih => exact ih.symm
    | trans _ _ _ _ _ ih ih' => exact ih.trans ih'
  have hparse : parse (textOf lines) = parse (textOf lines') := by
    rw [parse_textOf, parse_textOf, hwords]
  exact ⟨hparse, by rw [parse_crlfTextOf, hparse]⟩

/-- A stage with two ports. -/
def twoPorts : List Line :=
  [⟨"FROM ruby:2".toList, by decide⟩, ⟨"EXPOSE 80\t443/tcp".toList, by decide⟩]

def twoPortsApart : List Line :=
  [⟨"FROM ruby:2".toList, by decide⟩, ⟨"EXPOSE 80 \\".toList, by decide⟩,
    ⟨"  # secure \\".toList, by decide⟩, ⟨"443/tcp".toList, by decide⟩]

/-- An instruction may be broken, and a comment may stand where it is broken. -/
theorem parse_relaid_twoPorts :
    Relation.EqvGen LayoutEdit twoPorts twoPortsApart ∧
      parse (textOf twoPorts) = parse (textOf twoPortsApart) ∧
      parse (crlfTextOf twoPorts) = parse (textOf twoPortsApart) := by
  have hwrap : LayoutEdit twoPorts
      [⟨"FROM ruby:2".toList, by decide⟩, ⟨"EXPOSE 80 \\".toList, by decide⟩,
        ⟨"443/tcp".toList, by decide⟩] :=
    @LayoutEdit.wrap [⟨"FROM ruby:2".toList, by decide⟩] [] _ _ _ "EXPOSE 80".toList ['\t']
      "443/tcp".toList rfl rfl rfl (by decide) (by decide) (by decide) (by decide) (by decide)
      (by decide)
  have hcomment : LayoutEdit
      [⟨"FROM ruby:2".toList, by decide⟩, ⟨"EXPOSE 80 \\".toList, by decide⟩,
        ⟨"443/tcp".toList, by decide⟩] twoPortsApart :=
    @LayoutEdit.comment
      [⟨"FROM ruby:2".toList, by decide⟩, ⟨"EXPOSE 80 \\".toList, by decide⟩]
      [⟨"443/tcp".toList, by decide⟩] ⟨"  # secure \\".toList, by decide⟩ (by decide)
  have h := (Relation.EqvGen.rel _ _ hwrap).trans _ _ _ (.rel _ _ hcomment)
  exact ⟨h, parse_relaid h⟩

/-- Where a line is broken at one of two blanks before a `#`, what follows the break is a comment:
the instruction goes on after it and takes in the next line. -/
theorem broken_before_comment :
    ∃ (line first second next : Line) (a w b : List Char),
      line.chars = a ++ w ++ b ∧ first.chars = a ++ [' ', '\\'] ∧ second.chars = b ∧
      ¬ IsComment line.chars ∧ ¬ Blanks a ∧ Blanks w ∧ w ≠ [] ∧ ¬ Blanks b ∧
      b.head? ≠ some '#' ∧
      parse (textOf [line, next]) ≠ parse (textOf [first, second, next]) := by
  refine ⟨⟨"RUN echo  # on".toList, by decide⟩, ⟨"RUN echo \\".toList, by decide⟩,
    ⟨" # on".toList, by decide⟩, ⟨"FROM ruby:2".toList, by decide⟩, "RUN echo".toList, [' '],
    " # on".toList, rfl, rfl, rfl, by decide, by decide, by decide, by decide, by decide,
    by decide, fun h => ?_⟩
  have hnone := congrArg (fun r => r.toOption.map (·.base.isSome)) h
  exact absurd hnone (by decide +kernel)

end DeployPlan.BuildFile
