import ElasticPanels.Template.Format
import Mathlib.Data.List.Basic

/-!
# Reading Lucene values back

`letters?` reads a text in which a backslash protects the next character, and `readGroup` reads a
group of quoted terms.  An escaped text is read as the text that was escaped, each character of the
query syntax and each blank protected (`letters?_luceneEscape`), and a group is read as its terms
(`readGroup_luceneGroup`).  `Value.ofLucene?` puts the two readers together and undoes the rendering
of every value but the empty list, so that no two of these are rendered alike.
-/

namespace ElasticPanels.Template

open Text (ne_of_class)

/-! ## Protected characters -/

/-- A character of a text, and whether a backslash protects it. -/
structure Letter where
  char : Char
  isProtected : Bool
  deriving DecidableEq

/-- The characters of a text in which each backslash only protects the next character.  None, if a
backslash ends the text. -/
def letters? : List Char → Option (List Letter)
  | [] => some []
  | ['\\'] => none
  | '\\' :: c :: rest => (letters? rest).map (⟨c, true⟩ :: ·)
  | c :: rest => (letters? rest).map (⟨c, false⟩ :: ·)

/-- The characters of the query syntax. -/
def luceneSyntax : List Char := "+-=&|><!()\x7b\x7d[]^\"~*?:\\/".toList

theorem letters?_cons {c : Char} (h : c ≠ '\\') (rest : List Char) :
    letters? (c :: rest) = (letters? rest).map (⟨c, false⟩ :: ·) := by
  rw [letters?.eq_def]
  split <;> simp_all

/-- If backslashes are protected, what is protected is read back. -/
theorem letters?_protectChars {special : Char → Bool} (h : special '\\' = true) (cs : List Char) :
    letters? (protectChars special cs) = some (cs.map fun c => ⟨c, special c⟩) := by
  induction cs with
  | nil => rfl
  | cons c cs ih =>
    rw [protectChars_cons]
    cases hc : special c with
    | true =>
      rw [if_pos rfl, List.cons_append, List.singleton_append, letters?, ih, Option.map_some,
        List.map_cons, hc]
    | false =>
      rw [if_neg Bool.false_ne_true, List.singleton_append, letters?_cons (ne_of_class hc h), ih,
        Option.map_some, List.map_cons, hc]

theorem letters?_luceneEscape (text : String) :
    letters? (luceneEscape text).toList =
      some (text.toList.map fun c => ⟨c, isLuceneSpecial c⟩) := by
  rw [luceneEscape, String.toList_ofList]
  exact letters?_protectChars (by decide) _

theorem isLuceneSpecial_iff {c : Char} :
    isLuceneSpecial c = true ↔ c ∈ luceneSyntax ∨ Text.isBlank c = true := by
  have same : List.Perm "!*+-=<>&|()[]\x7b\x7d^~?:\\/\"".toList luceneSyntax := by decide
  rw [isLuceneSpecial, Bool.or_eq_true, List.contains_iff_mem, same.mem_iff]

/-! ## Groups of quoted terms -/

/-- The terms of a group, from within its first one, of which `term` is read. -/
def readTerms (term : List Char) : List Char → Option (List String)
  | '\\' :: c :: rest => readTerms (term ++ [c]) rest
  | ['"', ')'] => some [.ofList term]
  | '"' :: ' ' :: 'O' :: 'R' :: ' ' :: '"' :: rest => (readTerms [] rest).map (.ofList term :: ·)
  | c :: rest => if c = '"' || c = '\\' then none else readTerms (term ++ [c]) rest
  | [] => none

/-- The terms of a group: an opening parenthesis, terms between quotes with ` OR ` from one to the
next, and a closing parenthesis. -/
def readGroup : List Char → Option (List String)
  | '(' :: '"' :: rest => readTerms [] rest
  | _ => none

theorem readTerms_cons {c : Char} (quote : c ≠ '"') (backslash : c ≠ '\\') (term rest : List Char) :
    readTerms term (c :: rest) = readTerms (term ++ [c]) rest := by
  rw [readTerms.eq_def]
  split <;> simp_all

/-- What is protected within a term is part of the term. -/
theorem readTerms_protectChars {special : Char → Bool} (quote : special '"' = true)
    (backslash : special '\\' = true) (term cs rest : List Char) :
    readTerms term (protectChars special cs ++ rest) = readTerms (term ++ cs) rest := by
  induction cs generalizing term with
  | nil => rw [List.append_nil]; rfl
  | cons c cs ih =>
    have further : readTerms (term ++ [c]) (protectChars special cs ++ rest) =
        readTerms (term ++ c :: cs) rest := by
      rw [ih, List.append_assoc, List.singleton_append]
    rw [protectChars_cons, List.append_assoc, ← further]
    cases hc : special c with
    | true => rfl
    | false => exact readTerms_cons (ne_of_class hc quote) (ne_of_class hc backslash) term _

theorem readTerms_luceneEscape (text : String) (rest : List Char) :
    readTerms [] ((luceneEscape text).toList ++ rest) = readTerms text.toList rest := by
  rw [luceneEscape, String.toList_ofList]
  exact readTerms_protectChars (by decide) (by decide) [] text.toList rest

/-- A term of a group. -/
def quotedTerm (text : String) : String := "\"" ++ luceneEscape text ++ "\""

/-- The quoted terms of a group and what closes it are read as the terms. -/
theorem exists_readTerms (text : String) (others : List String) :
    ∃ tail, (String.intercalate " OR " ((text :: others).map quotedTerm)).toList ++ [')'] =
        '"' :: tail ∧ readTerms [] tail = some (text :: others) := by
  induction others generalizing text with
  | nil =>
    refine ⟨(luceneEscape text).toList ++ ['"', ')'], by simp [quotedTerm], ?_⟩
    rw [readTerms_luceneEscape, readTerms, String.ofList_toList]
  | cons next others ih =>
    obtain ⟨tail, written, read⟩ := ih next
    refine ⟨(luceneEscape text).toList ++ '"' :: (" OR ".toList ++ '"' :: tail), ?_, ?_⟩
    · rw [← written]
      simp [quotedTerm]
    · have step : readTerms text.toList ('"' :: (" OR ".toList ++ '"' :: tail)) =
          (readTerms [] tail).map (.ofList text.toList :: ·) := rfl
      rw [readTerms_luceneEscape, step, read, String.ofList_toList, Option.map_some]

/-- A group is read as its terms. -/
theorem readGroup_luceneGroup {texts : List String} (h : texts ≠ []) :
    readGroup (luceneGroup texts).toList = some texts := by
  obtain ⟨text, others, rfl⟩ := List.exists_cons_of_ne_nil h
  obtain ⟨tail, written, read⟩ := exists_readTerms text others
  have group : luceneGroup (text :: others) =
      "(" ++ String.intercalate " OR " ((text :: others).map quotedTerm) ++ ")" := rfl
  have opened : (luceneGroup (text :: others)).toList = '(' :: '"' :: tail := by
    rw [← written, group]
    simp
  rw [opened, readGroup, read]

/-- An escaped text is no group. -/
theorem readGroup_luceneEscape (text : String) : readGroup (luceneEscape text).toList = none := by
  rw [luceneEscape, String.toList_ofList]
  cases text.toList with
  | nil => rfl
  | cons c cs =>
    rw [protectChars_cons]
    cases hc : isLuceneSpecial c with
    | true => rfl
    | false =>
      have plain : c ≠ '(' := ne_of_class hc (by decide)
      rw [readGroup.eq_def]
      split <;> simp_all

/-! ## Values -/

/-- The value that is rendered as a text: a group is a list, and what is no group is one text. -/
def Value.ofLucene? (cs : List Char) : Option Value :=
  match readGroup cs with
  | some texts => some (.multi texts)
  | none => (letters? cs).map fun letters => .single (.ofList (letters.map Letter.char))

/-- Every value but the empty list is read back from its rendering. -/
theorem Value.ofLucene?_render {value : Value} (h : value ≠ .multi []) (name : String) :
    ofLucene? (Format.lucene.render name value).toList = some value := by
  cases value with
  | single text =>
    have single : Format.lucene.render name (.single text) = luceneEscape text := rfl
    rw [single, ofLucene?, readGroup_luceneEscape, letters?_luceneEscape]
    simp [Function.comp_def]
  | multi texts =>
    have multi : Format.lucene.render name (.multi texts) = luceneGroup texts := rfl
    rw [multi, ofLucene?, readGroup_luceneGroup fun none => h (by rw [none])]

/-- What Lucene reads of a value.  A text keeps all its characters, and those that a backslash
protects are just those of the query syntax and the blanks; a list of texts is a group of just these
terms; and no two values but the empty list are rendered alike. -/
theorem lucene_reads_back :
    (∀ text : String, ∃ letters, letters? (luceneEscape text).toList = some letters ∧
      letters.map Letter.char = text.toList ∧
      ∀ l ∈ letters, l.isProtected = true ↔
        l.char ∈ luceneSyntax ∨ Text.isBlank l.char = true) ∧
    (∀ (name : String) (texts : List String), texts ≠ [] →
      readGroup (Format.lucene.render name (.multi texts)).toList = some texts) ∧
    ∀ (name other : String) (v w : Value), v ≠ .multi [] → w ≠ .multi [] → v ≠ w →
      Format.lucene.render name v ≠ Format.lucene.render other w := by
  refine ⟨fun text => ⟨_, letters?_luceneEscape text, ?_, ?_⟩, fun _ texts => readGroup_luceneGroup,
    fun name other v w hv hw differ same => differ ?_⟩
  · simp [Function.comp_def]
  · rw [List.forall_mem_map]
    exact fun c _ => isLuceneSpecial_iff
  · have read := Value.ofLucene?_render hv name
    rw [same, Value.ofLucene?_render hw other] at read
    exact (Option.some.inj read).symm

/-- Terms that end a group, or begin another one, within themselves. -/
theorem groupWithinGroup_read :
    let texts := ["a\") OR (\"b", "\\", "x\u2003y"]
    let text := "(\"a\")"
    texts ≠ [] ∧ Value.multi ["a"] ≠ .multi [] ∧ Value.single text ≠ .multi [] ∧
      Value.multi ["a"] ≠ .single text ∧
      readGroup (Format.lucene.render "v" (.multi texts)).toList = some texts ∧
      Format.lucene.render "v" (.multi ["a"]) ≠ Format.lucene.render "w" (.single text) := by
  intro texts text
  obtain ⟨-, group, apart⟩ := lucene_reads_back
  have some_ : texts ≠ [] := by decide
  have filled : Value.multi ["a"] ≠ .multi [] := by decide
  have single : Value.single text ≠ .multi [] := by decide
  have differ : Value.multi ["a"] ≠ .single text := by decide
  exact ⟨some_, filled, single, differ, group "v" texts some_,
    apart "v" "w" _ _ filled single differ⟩

end ElasticPanels.Template
