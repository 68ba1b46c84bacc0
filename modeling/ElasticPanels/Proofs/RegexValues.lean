import ElasticPanels.Template.Format
import Mathlib.Computability.RegularExpressions

/-!
# What regular expressions match

`readRegex` reads a text as a regular expression: a backslash takes the meaning from the next
character, a bar separates alternatives, parentheses group them, and what has no meaning stands for
itself.  A value that is written as a regular expression is read as one (`readRegex_regexEscape`,
`readRegex_group`), and what that matches is exactly the texts of the value (`regex_matches_texts`).
-/

namespace ElasticPanels.Template

open Text (ne_of_class)

/-! ## Reading regular expressions -/

/-- The characters that have a meaning in a regular expression. -/
def isOperator (c : Char) : Bool := ".^$*+?()[]\x7b\x7d|\\".toList.contains c

/-- The alternatives of a group as far as they are read: those that are finished, as one, and the
last one. -/
structure Alternatives where
  finished : RegularExpression Char
  last : RegularExpression Char

namespace Alternatives

/-- A group of which nothing is read. -/
def start : Alternatives := ⟨0, 1⟩

/-- The group, if nothing more is read. -/
def close (a : Alternatives) : RegularExpression Char := a.finished + a.last

/-- The alternatives with more read of the last one. -/
def add (a : Alternatives) (r : RegularExpression Char) : Alternatives := ⟨a.finished, a.last * r⟩

/-- The alternatives with the last one finished. -/
def bar (a : Alternatives) : Alternatives := ⟨a.close, 1⟩

end Alternatives

open RegularExpression in
/-- Reads on from within a group, with the groups around it from the inside out. -/
def readAlternatives (a : Alternatives) (outer : List Alternatives) :
    List Char → Option (RegularExpression Char)
  | [] => if outer.isEmpty then some a.close else none
  | '\\' :: c :: rest => readAlternatives (a.add (char c)) outer rest
  | '|' :: rest => readAlternatives a.bar outer rest
  | '(' :: rest => readAlternatives .start (a :: outer) rest
  | ')' :: rest =>
    match outer with
    | [] => none
    | around :: outer => readAlternatives (around.add a.close) outer rest
  | c :: rest => if isOperator c then none else readAlternatives (a.add (char c)) outer rest

/-- The regular expression that a text is, if it is one. -/
def readRegex (cs : List Char) : Option (RegularExpression Char) := readAlternatives .start [] cs

/-! ## Reading what is escaped -/

namespace Alternatives

variable (a : Alternatives)

/-- The alternatives with a text read of the last one. -/
def write (cs : List Char) : Alternatives := cs.foldl (fun a c => a.add (.char c)) a

theorem finished_write (cs : List Char) : (a.write cs).finished = a.finished := by
  induction cs generalizing a with
  | nil => rfl
  | cons c cs ih => exact ih (a.add (.char c))

theorem matches'_last_write (cs : List Char) :
    (a.write cs).last.matches' = a.last.matches' * {cs} := by
  induction cs generalizing a with
  | nil => exact (mul_one _).symm
  | cons c cs ih =>
    have step : a.write (c :: cs) = (a.add (.char c)).write cs := rfl
    have joined : ({[c]} : Language Char) * {cs} = {c :: cs} := Set.image2_singleton
    rw [step, ih, add, RegularExpression.matches'_mul, RegularExpression.matches'_char, mul_assoc,
      joined]

theorem matches'_close : a.close.matches' = a.finished.matches' + a.last.matches' := rfl

theorem matches'_close_start_write (cs : List Char) :
    (start.write cs).close.matches' = {cs} := by
  rw [matches'_close, finished_write, matches'_last_write]
  exact (zero_add _).trans (one_mul _)

theorem matches'_close_bar_write (cs : List Char) :
    (a.bar.write cs).close.matches' = a.close.matches' + {cs} := by
  rw [matches'_close, finished_write, matches'_last_write]
  exact congrArg (a.close.matches' + ·) (one_mul _)

end Alternatives

theorem isOperator_eq_false {c : Char} (h : isRegexSpecial c = false) : isOperator c = false := by
  have all : ∀ d ∈ ".^$*+?()[]\x7b\x7d|\\".toList, isRegexSpecial d = true := by decide
  refine Bool.eq_false_iff.2 fun operator => ?_
  exact ne_of_class h (all c (List.contains_iff_mem.1 operator)) rfl

section

variable (a : Alternatives) (outer : List Alternatives)

theorem readAlternatives_cons {c : Char} (h : isOperator c = false) (rest : List Char) :
    readAlternatives a outer (c :: rest) = readAlternatives (a.add (.char c)) outer rest := by
  have backslash : c ≠ '\\' := ne_of_class h (by decide)
  have bar : c ≠ '|' := ne_of_class h (by decide)
  have opening : c ≠ '(' := ne_of_class h (by decide)
  have closing : c ≠ ')' := ne_of_class h (by decide)
  rw [readAlternatives.eq_def]
  split <;> simp_all

/-- An escaped text is read character by character. -/
theorem readAlternatives_regexEscape (text : String) (rest : List Char) :
    readAlternatives a outer ((regexEscape text).toList ++ rest) =
      readAlternatives (a.write text.toList) outer rest := by
  rw [regexEscape, String.toList_ofList]
  generalize text.toList = cs
  induction cs generalizing a with
  | nil => rfl
  | cons c cs ih =>
    have later := ih (a.add (.char c))
    rw [protectChars_cons, List.append_assoc]
    cases hc : isRegexSpecial c with
    | true => exact later
    | false => exact (readAlternatives_cons a outer (isOperator_eq_false hc) _).trans later

/-- The alternatives with more of them read. -/
def Alternatives.writeAll (texts : List String) : Alternatives :=
  texts.foldl (fun a text => a.bar.write text.toList) a

theorem readAlternatives_regexEscapes (text : String) (others : List String) (rest : List Char) :
    readAlternatives a outer
        ((String.intercalate "|" ((text :: others).map regexEscape)).toList ++ rest) =
      readAlternatives ((a.write text.toList).writeAll others) outer rest := by
  induction others generalizing a text with
  | nil =>
    rw [List.map_singleton, String.intercalate_singleton]
    exact readAlternatives_regexEscape a outer text rest
  | cons next others ih =>
    have written :
        (String.intercalate "|" ((text :: next :: others).map regexEscape)).toList ++ rest =
          (regexEscape text).toList ++
            '|' ::
              ((String.intercalate "|" ((next :: others).map regexEscape)).toList ++ rest) := by
      simp
    have bar (a : Alternatives) (cs : List Char) :
        readAlternatives a outer ('|' :: cs) = readAlternatives a.bar outer cs := rfl
    rw [written, readAlternatives_regexEscape, bar, ih]
    rfl

theorem mem_matches'_writeAll (texts : List String) (s : String) :
    s.toList ∈ (a.writeAll texts).close.matches' ↔ s.toList ∈ a.close.matches' ∨ s ∈ texts := by
  induction texts generalizing a with
  | nil => simp [Alternatives.writeAll]
  | cons text texts ih =>
    have step : a.writeAll (text :: texts) = (a.bar.write text.toList).writeAll texts := rfl
    have single : s.toList ∈ ({text.toList} : Language Char) ↔ s = text := String.toList_inj
    rw [step, ih, Alternatives.matches'_close_bar_write, Language.mem_add, single, List.mem_cons,
      or_assoc]

end

/-! ## What values match -/

/-- The regular expression of a text matches it and nothing else. -/
theorem readRegex_regexEscape (text : String) :
    ∃ r, readRegex (regexEscape text).toList = some r ∧
      ∀ s : String, s.toList ∈ r.matches' ↔ s = text := by
  refine ⟨(Alternatives.start.write text.toList).close, ?_, fun s => ?_⟩
  · have whole := readAlternatives_regexEscape .start [] text []
    rwa [List.append_nil] at whole
  · rw [Alternatives.matches'_close_start_write]
    exact String.toList_inj

/-- A group matches what its alternatives match. -/
theorem readRegex_group (text : String) (others : List String) :
    ∃ r, readRegex
        ("(" ++ String.intercalate "|" ((text :: others).map regexEscape) ++ ")").toList = some r ∧
      ∀ s : String, s.toList ∈ r.matches' ↔ s ∈ text :: others := by
  let read := (Alternatives.start.write text.toList).writeAll others
  refine ⟨(Alternatives.start.add read.close).close, ?_, fun s => ?_⟩
  · have inside := readAlternatives_regexEscapes .start [.start] text others [')']
    rw [String.toList_append, String.toList_append, List.append_assoc]
    exact inside
  · have grouped : (Alternatives.start.add read.close).close.matches' = read.close.matches' :=
      (zero_add _).trans (one_mul _)
    have first : s.toList ∈ (Alternatives.start.write text.toList).close.matches' ↔ s = text := by
      rw [Alternatives.matches'_close_start_write]
      exact String.toList_inj
    rw [grouped, mem_matches'_writeAll, first, List.mem_cons]

/-- A value that is written as a regular expression is one, and that matches the texts of the value
and nothing else. -/
theorem regex_matches_texts :
    (∀ name text : String, ∃ r,
      readRegex ((Format.ofName "regex").render name (.single text)).toList = some r ∧
        ∀ s : String, s.toList ∈ r.matches' ↔ s = text) ∧
    ∀ (name : String) (texts : List String), texts ≠ [] → ∃ r,
      readRegex ((Format.ofName "regex").render name (.multi texts)).toList = some r ∧
        ∀ s : String, s.toList ∈ r.matches' ↔ s ∈ texts := by
  refine ⟨fun _ => readRegex_regexEscape, fun name texts filled => ?_⟩
  match texts, filled with
  | [text], _ =>
    obtain ⟨r, read, matched⟩ := readRegex_regexEscape text
    exact ⟨r, read, fun s => (matched s).trans List.mem_singleton.symm⟩
  | text :: next :: others, _ => exact readRegex_group text (next :: others)

/-- Operators within the texts of a list are not read as such. -/
theorem operators_match_themselves :
    let texts := ["a|b", ")(", "", ".*"]
    let text := (Format.ofName "regex").render "v" (.multi texts)
    texts ≠ [] ∧ text = "(a\\|b|\\)\\(||\\.\\*)" ∧ ∃ r, readRegex text.toList = some r ∧
      "a|b".toList ∈ r.matches' ∧ "a".toList ∉ r.matches' := by
  intro texts text
  have filled : texts ≠ [] := by decide
  obtain ⟨r, read, matched⟩ := regex_matches_texts.2 "v" texts filled
  refine ⟨filled, by decide, r, read, (matched "a|b").2 (by decide), fun shorter => ?_⟩
  exact absurd ((matched "a").1 shorter) (by decide)

end ElasticPanels.Template
