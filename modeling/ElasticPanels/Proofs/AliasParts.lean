import ElasticPanels.Proofs.Checks
import ElasticPanels.Proofs.References
import ElasticPanels.Result.Reply

/-!
# Aliases part by part

An alias is a sequence of parts (`Alias.Part`): plain texts without an opening brace, and patterns
in double braces with any blanks in them.  Each run of characters in a pattern ends where the next
one begins, so a pattern is found where it stands, whatever follows it (`Alias.pattern?_written`).
An alias is therefore rendered part by part, and what stands for a pattern is not read again
(`Alias.render_ofParts`).  The series of a query with an alias are named in this way
(`targets_of_parts`).
-/

namespace ElasticPanels

namespace Alias

open Text (isBlank dropWhile_run takeWhile_run)

/-! ## Runs of characters -/

theorem isArgumentChar_of_isNameChar {c : Char} (h : isNameChar c = true) :
    isArgumentChar c = true := by
  simp [isArgumentChar, h]

theorem isNameChar_eq_false {c : Char} (h : isArgumentChar c = false) : isNameChar c = false := by
  by_contra other
  rw [isArgumentChar_of_isNameChar (by simpa using other)] at h
  cases h

/-- The code points of blanks. -/
def blanks : List ℕ :=
  [0x9, 0xa, 0xb, 0xc, 0xd, 0x1c, 0x1d, 0x1e, 0x1f, 0x20, 0x85, 0xa0, 0x1680, 0x2000, 0x2001,
    0x2002, 0x2003, 0x2004, 0x2005, 0x2006, 0x2007, 0x2008, 0x2009, 0x200a, 0x2028, 0x2029, 0x202f,
    0x205f, 0x3000]

theorem toNat_mem_blanks {c : Char} (h : isBlank c = true) : c.toNat ∈ blanks := by
  simp only [isBlank, Text.isWhiteSpace, Bool.or_eq_true, Bool.and_eq_true, decide_eq_true_eq,
    beq_iff_eq] at h
  simp only [blanks, List.mem_cons, List.not_mem_nil, or_false]
  omega

theorem isArgumentChar_of_isBlank {c : Char} (h : isBlank c = true) : isArgumentChar c = false := by
  have none : ∀ n ∈ blanks, isArgumentChar (Char.ofNat n) = false := by decide +kernel
  have same := none c.toNat (toNat_mem_blanks h)
  rwa [Char.ofNat_toNat] at same

theorem isBlank_of_isArgumentChar {c : Char} (h : isArgumentChar c = true) : isBlank c = false := by
  by_contra blank
  rw [isArgumentChar_of_isBlank (by simpa using blank)] at h
  cases h

/-! ## Patterns -/

/-- Blanks somewhere in a pattern, perhaps none. -/
abbrev Blanks := {cs : List Char // ∀ c ∈ cs, isBlank c = true}

/-- A name: word characters and points, at least one. -/
abbrev Name := {name : String // name ≠ "" ∧ ∀ c ∈ name.toList, isNameChar c = true}

/-- An argument, which may also hold `@` and `-`. -/
abbrev Argument := {argument : String // ∀ c ∈ argument.toList, isArgumentChar c = true}

/-- The argument does not go on with the name before it: there are blanks between them, or it begins
with a character that no name holds. -/
def IsApart (between : Blanks) (argument : String) : Prop :=
  between.1 ≠ [] ∨ ∀ c ∈ argument.toList.head?, isNameChar c = false

instance (between : Blanks) (argument : String) : Decidable (IsApart between argument) :=
  inferInstanceAs (Decidable (_ ∨ _))

/-- The text of a pattern. -/
def written (before : Blanks) (name : String) (between : Blanks) (argument : String)
    (behind : Blanks) : List Char :=
  '\x7b' :: '\x7b' :: (before.1 ++ (name.toList ++ (between.1 ++ (argument.toList ++
    (behind.1 ++ ['\x7d', '\x7d'])))))

section Written

variable {before between behind : Blanks} {argument : String}

/-- Behind an argument no argument goes on. -/
theorem isArgumentChar_behind (behind : Blanks) (rest : List Char) :
    ∀ c ∈ (behind.1 ++ '\x7d' :: rest).head?, isArgumentChar c = false := by
  obtain ⟨_ | ⟨d, behind⟩, blank⟩ := behind
  · intro c hc
    obtain rfl : '\x7d' = c := by simpa using hc
    decide
  · intro c hc
    obtain rfl : d = c := by simpa using hc
    exact isArgumentChar_of_isBlank (blank d (by simp))

/-- Behind a name no name goes on. -/
theorem isNameChar_behind (apart : IsApart between argument) (behind : Blanks) (rest : List Char) :
    ∀ c ∈ (between.1 ++ (argument.toList ++ (behind.1 ++ '\x7d' :: rest))).head?,
      isNameChar c = false := by
  obtain ⟨_ | ⟨d, between⟩, blank⟩ := between
  · have first := apart.resolve_left (by simp)
    intro c hc
    rcases chars : argument.toList with _ | ⟨d, ds⟩
    · rw [chars] at hc
      exact isNameChar_eq_false (isArgumentChar_behind behind rest c hc)
    · rw [chars] at hc first
      exact first c hc
  · intro c hc
    obtain rfl : d = c := by simpa using hc
    exact isNameChar_eq_false (isArgumentChar_of_isBlank (blank d (by simp)))

/-- After the blanks behind a name stands the argument, and then the closing braces. -/
theorem dropWhile_between (chars : ∀ c ∈ argument.toList, isArgumentChar c = true)
    (between behind : Blanks) (rest : List Char) :
    let found :=
      (between.1 ++ (argument.toList ++ (behind.1 ++ '\x7d' :: rest))).dropWhile isBlank
    found.takeWhile isArgumentChar = argument.toList ∧
      (found.dropWhile isArgumentChar).dropWhile isBlank = '\x7d' :: rest := by
  have closing : ∀ c ∈ ('\x7d' :: rest).head?, isBlank c = false := by
    intro c hc
    obtain rfl : '\x7d' = c := by simpa using hc
    decide
  have ends := isArgumentChar_behind behind rest
  cases given : argument.toList with
  | nil =>
    -- without an argument the blanks on its two sides are one run
    have all : ∀ c ∈ between.1 ++ behind.1, isBlank c = true :=
      List.forall_mem_append.2 ⟨between.2, behind.2⟩
    have whole := dropWhile_run all closing
    rw [List.append_assoc] at whole
    rw [List.nil_append, whole]
    exact ⟨rfl, rfl⟩
  | cons d ds =>
    rw [given] at chars
    have first : ∀ c ∈ ((d :: ds) ++ (behind.1 ++ '\x7d' :: rest)).head?, isBlank c = false := by
      intro c hc
      obtain rfl : d = c := by simpa using hc
      exact isBlank_of_isArgumentChar (chars d (by simp))
    show (List.takeWhile _ (List.dropWhile _ _) = _) ∧ _
    rw [dropWhile_run between.2 first]
    refine ⟨takeWhile_run chars ends, ?_⟩
    rw [dropWhile_run chars ends, dropWhile_run behind.2 closing]

/-- A pattern is found where it stands. -/
theorem pattern?_written (before between behind : Blanks) (name : Name)
    (chars : ∀ c ∈ argument.toList, isArgumentChar c = true) (apart : IsApart between argument)
    (rest : List Char) :
    pattern? (written before name.1 between argument behind ++ rest) =
      some ⟨name.1, argument, written before name.1 between argument behind⟩ := by
  obtain ⟨name, ne, letters⟩ := name
  have split : written before name between argument behind ++ rest =
      '\x7b' :: '\x7b' :: (before.1 ++ (name.toList ++ (between.1 ++ (argument.toList ++
        (behind.1 ++ '\x7d' :: '\x7d' :: rest))))) := by
    simp [written]
  have filled : name.toList ≠ [] := by simpa using ne
  obtain ⟨d, ds, spelled⟩ := List.exists_cons_of_ne_nil filled
  have opens : ∀ (more : List Char), ∀ c ∈ (name.toList ++ more).head?, isBlank c = false := by
    intro more c hc
    rw [spelled] at hc letters
    obtain rfl : d = c := by simpa using hc
    exact isBlank_of_isArgumentChar (isArgumentChar_of_isNameChar (letters d (by simp)))
  have ends := isNameChar_behind apart behind ('\x7d' :: rest)
  obtain ⟨taken, closed⟩ := dropWhile_between chars between behind ('\x7d' :: rest)
  have nonempty : name.toList.isEmpty = false := by simp [spelled]
  rw [split, pattern?]
  simp only [dropWhile_run before.2 (opens _), takeWhile_run letters ends,
    dropWhile_run letters ends, taken, closed, nonempty, Bool.false_eq_true, if_false]
  rw [← split]
  simp

end Written

/-! ## Parts -/

/-- A part of an alias. -/
inductive Part
  /-- A text without an opening brace. -/
  | plain (text : List Char) (braceless : '\x7b' ∉ text)
  /-- The label with the name that follows the word "term". -/
  | term (before between behind : Blanks) (wanted : Argument) (nonempty : wanted.1 ≠ "")
    (apart : IsApart between wanted.1)
  /-- The name of the metric. -/
  | metric (before behind : Blanks)
  /-- The field of the metric. -/
  | field (before behind : Blanks)
  /-- The label with any other name. -/
  | label (before behind : Blanks) (name : Name) (other : name.1 ≠ "metric" ∧ name.1 ≠ "field")

/-- No blanks. -/
def unspaced : Blanks := ⟨[], nofun⟩

/-- The name of the patterns with an argument. -/
def termName : Name := ⟨"term", by decide⟩

/-- The name of the patterns for the name of the metric. -/
def metricName : Name := ⟨"metric", by decide⟩

/-- The name of the patterns for the field of the metric. -/
def fieldName : Name := ⟨"field", by decide⟩

/-- The text of a part. -/
def Part.text : Part → List Char
  | plain text _ => text
  | term before between behind wanted _ _ => written before termName.1 between wanted.1 behind
  | metric before behind => written before metricName.1 unspaced "" behind
  | field before behind => written before fieldName.1 unspaced "" behind
  | label before behind name _ => written before name.1 unspaced "" behind

/-- What a part becomes in the name of a series: texts stay, and so do the patterns of labels that
the series does not have. -/
def Part.rendering (labels : Entries String) (title : String) (own : Option String)
    (part : Part) : List Char :=
  let labelled (name : String) : List Char :=
    ((labels.get? name).map String.toList).getD part.text
  match part with
  | plain text _ => text
  | term _ _ _ wanted _ _ => labelled wanted.1
  | metric _ _ => title.toList
  | field _ _ => (own.getD "").toList
  | label _ _ name _ => labelled name.1

/-- The alias that is made of some parts. -/
def ofParts (parts : List Part) : String := .ofList (parts.flatMap Part.text)

section

variable (labels : Entries String) (title : String) (field : Option String)

/-- The name that the parts of an alias give to a series. -/
def rendering (parts : List Part) : String :=
  .ofList (parts.flatMap (Part.rendering labels title field))

end

theorem patterns_cons {c : Char} (h : c ≠ '\x7b') (rest : List Char) :
    patterns (c :: rest) = .plain c :: patterns rest := by
  apply Text.scan_cons_of_none
  unfold pattern?
  split
  · rename_i same
    exact absurd (List.cons.inj same).1 h
  · rfl

theorem patterns_plain {text : List Char} (braceless : '\x7b' ∉ text) (rest : List Char) :
    patterns (text ++ rest) = text.map .plain ++ patterns rest := by
  induction text with
  | nil => rfl
  | cons c text ih =>
    simp only [List.mem_cons, not_or] at braceless
    rw [List.cons_append, patterns_cons (Ne.symm braceless.1), ih braceless.2]
    rfl

theorem patterns_written {argument : String} (before between behind : Blanks) (name : Name)
    (chars : ∀ c ∈ argument.toList, isArgumentChar c = true) (apart : IsApart between argument)
    (rest : List Char) :
    patterns (written before name.1 between argument behind ++ rest) =
      .mark ⟨name.1, argument, written before name.1 between argument behind⟩ ::
        patterns rest := by
  have found := pattern?_written before between behind name chars apart rest
  obtain ⟨inside, spelled⟩ : ∃ inside,
      written before name.1 between argument behind = '\x7b' :: inside := ⟨_, rfl⟩
  rw [spelled, List.cons_append] at found ⊢
  rw [patterns, Text.scan_cons_of_some found (by simp)]
  simp [patterns]

theorem isApart_unspaced : IsApart unspaced "" := .inr nofun

theorem no_argument : ∀ c ∈ "".toList, isArgumentChar c = true := nofun

theorem assemble_part (labels : Entries String) (title : String) (own : Option String)
    (part : Part) (rest : List Char) :
    Text.assemble (expand labels title own) (patterns (part.text ++ rest)) =
      part.rendering labels title own ++
        Text.assemble (expand labels title own) (patterns rest) := by
  cases part with
  | plain text braceless =>
    rw [Part.text, patterns_plain braceless, Template.assemble_append, Template.assemble_map_plain,
      Part.rendering]
  | term before between behind wanted nonempty apart =>
    have found := patterns_written before between behind termName wanted.2 apart rest
    rw [Part.text, found, Template.assemble_mark, expand, if_pos ⟨rfl, nonempty⟩]
    rfl
  | metric before behind =>
    have found :=
      patterns_written before unspaced behind metricName no_argument isApart_unspaced rest
    rw [Part.text, found, Template.assemble_mark]
    rfl
  | field before behind =>
    have found :=
      patterns_written before unspaced behind fieldName no_argument isApart_unspaced rest
    rw [Part.text, found, Template.assemble_mark]
    rfl
  | label before behind name other =>
    have found := patterns_written before unspaced behind name no_argument isApart_unspaced rest
    rw [Part.text, found, Template.assemble_mark, expand, if_neg (by simp), if_neg other.1,
      if_neg other.2]
    rfl

/-- An alias is rendered part by part. -/
theorem render_ofParts (labels : Entries String) (title : String) (field : Option String)
    (parts : List Part) :
    render labels title field (ofParts parts) = rendering labels title field parts := by
  unfold render ofParts rendering
  rw [String.toList_ofList]
  congr 1
  induction parts with
  | nil => rfl
  | cons part parts ih =>
    rw [List.flatMap_cons, List.flatMap_cons, assemble_part, ih]

end Alias

/-! ## Names of series -/

namespace PanelQuery

variable {q : PanelQuery}

theorem targets_of_single {name : String} {points : Outcome (List (Json × Json))}
    {found : List TimeSeries}
    (h : (do return [← q.series name (← points)]) = Except.ok found) :
    found.map (·.target) = [name] := by
  obtain ⟨s, rfl, target, -⟩ := exists_series_of_single h
  rw [List.map_singleton, target]

/-- A metric makes one series with its title, unless it makes one for each percentage. -/
theorem targets_of_metricSeries {labels : Entries String} {buckets : Json} {m : Metric}
    {found : List TimeSeries} (h : q.metricSeries labels buckets m = .ok found) :
    let name (title : String) := q.seriesName m labels q.visibleMetrics.length title
    (m.kind ≠ .percentiles → found.map (·.target) = [name m.title]) ∧
      (m.kind = .percentiles → ∃ percents, percentages m buckets = .ok percents ∧
        found.map (·.target) = percents.map fun percent =>
          name (m.percentileTitle percent.plain)) := by
  intro name
  rw [metricSeries] at h
  split at h
  · rename_i counted
    exact ⟨fun _ => targets_of_single h, fun several => by simp [counted] at several⟩
  · rename_i several
    refine ⟨fun single => absurd several single, fun _ => ?_⟩
    obtain ⟨percents, asked, each⟩ := Outcome.bind_eq_ok.1 h
    refine ⟨percents, asked, ?_⟩
    have named : List.Forall₂ (fun percent (s : TimeSeries) =>
        name (m.percentileTitle percent.plain) = s.target) percents found := by
      apply (Outcome.mapM_eq_ok.1 each).imp
      intro percent s made
      obtain ⟨points, -, made⟩ := Outcome.bind_eq_ok.1 made
      exact (names_of_series made).1.symm
    apply Eq.symm
    rw [← List.forall₂_eq_eq_eq, List.forall₂_map_left_iff, List.forall₂_map_right_iff]
    exact named
  · rename_i single
    exact ⟨fun _ => targets_of_single h, fun several => absurd several single⟩

end PanelQuery

/-- An alias names the series of a query part by part, whatever the labels of the series and the
metric are: texts stay as they are, and each pattern becomes the label, the name or the field that
it stands for. -/
theorem targets_of_parts {q : PanelQuery} {parts : List Alias.Part}
    (h : q.aliasPattern = some (Alias.ofParts parts)) (nonempty : Alias.ofParts parts ≠ "") :
    (∀ m labels visible title,
      q.seriesName m labels visible title = Alias.rendering labels title m.field parts) ∧
    ∀ m labels buckets found, q.metricSeries labels buckets m = .ok found →
      (m.kind ≠ .percentiles →
        found.map (·.target) = [Alias.rendering labels m.title m.field parts]) ∧
      (m.kind = .percentiles → ∃ percents, percentages m buckets = .ok percents ∧
        found.map (·.target) = percents.map fun percent =>
          Alias.rendering labels (m.withField ("p" ++ percent.plain)) m.field parts) := by
  have named : ∀ m labels visible title,
      q.seriesName m labels visible title = Alias.rendering labels title m.field parts := by
    intro m labels visible title
    have kept : q.aliasPattern.filter (!·.isEmpty) = some (Alias.ofParts parts) := by
      simp [h, nonempty]
    rw [PanelQuery.seriesName, kept]
    exact Alias.render_ofParts labels title m.field parts
  refine ⟨named, fun m labels buckets found made => ?_⟩
  obtain ⟨single, several⟩ := PanelQuery.targets_of_metricSeries made
  simp only [named] at single several
  exact ⟨single, several⟩

/-- The parts of `{{term host}}: {{ metric}}`. -/
def hostAndTitle : List Alias.Part :=
  [.term Alias.unspaced ⟨[' '], by decide⟩ Alias.unspaced ⟨"host", by decide⟩ (by decide)
      (by decide),
    .plain [':', ' '] (by decide),
    .metric ⟨[' '], by decide⟩ Alias.unspaced]

/-- The percentiles of the latency. -/
def latency : Metric := ⟨"1", .percentiles, some "latency", false, []⟩

/-- A query of that alias. -/
def latencies : PanelQuery :=
  ⟨"A", none, false, none, some "\x7b\x7bterm host\x7d\x7d: \x7b\x7b metric\x7d\x7d",
    "@timestamp", [latency], []⟩

/-- A bucket with the median of the latency. -/
def medianBucket : Json :=
  .obj [("key", .int 1000), ("1", .obj [("values", .obj [("50.0", .int 3)])])]

/-- A label that looks like a pattern is put in as it is. -/
theorem targets_of_hostAndTitle :
    latencies.aliasPattern = some (Alias.ofParts hostAndTitle) ∧
      Alias.ofParts hostAndTitle ≠ "" ∧
      ∃ found, latencies.metricSeries [("host", "\x7b\x7bmetric\x7d\x7d")] (.arr [medianBucket])
          latency = .ok found ∧
        found.map (·.target) = ["\x7b\x7bmetric\x7d\x7d: p50.0 latency"] := by
  have spelled : latencies.aliasPattern = some (Alias.ofParts hostAndTitle) := by decide
  have nonempty : Alias.ofParts hostAndTitle ≠ "" := by decide
  obtain ⟨found, made⟩ : ∃ found, latencies.metricSeries [("host", "\x7b\x7bmetric\x7d\x7d")]
      (.arr [medianBucket]) latency = .ok found := ⟨_, rfl⟩
  refine ⟨spelled, nonempty, found, made, ?_⟩
  obtain ⟨percents, asked, named⟩ := ((targets_of_parts spelled nonempty).2 _ _ _ _ made).2 rfl
  obtain rfl : [Json.str "50.0"] = percents := by
    have known : percentages latency (.arr [medianBucket]) = .ok [.str "50.0"] := rfl
    rw [known] at asked
    exact Except.ok.inj asked
  rw [named]
  decide

end ElasticPanels
