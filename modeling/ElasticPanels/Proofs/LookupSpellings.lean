import ElasticPanels.Datasource
import ElasticPanels.Proofs.Checks
import ElasticPanels.Proofs.JsonText

/-!
# Lookups as objects and as texts

A lookup may be given as an object or as the text of one.  Reading the text gives the object back
but for halves of surrogate pairs, which it joins (`Json.rejoined`), so the text asks for what the
object asks for after joining.  Without such halves the two ask for the same, and with them the two
differ just where joining changes a text of the lookup or the check of its size
(`Lookup.read_text_eq_iff`).
-/

namespace ElasticPanels

/-! ## Joined halves -/

namespace Json

/-- The value as it comes back from its text: halves that make a pair are joined. -/
def rejoined (v : Json) : Json := v.readBack Entries.ofPairs rejoin

/-- The entries of an object as they come back from its text. -/
def rejoinedFields (fields : Entries Json) : Entries Json :=
  Entries.ofPairs (fields.map fun field => (rejoin field.1, field.2.rejoined))

theorem rejoined_obj (fields : Entries Json) :
    (obj fields).rejoined = obj (rejoinedFields fields) :=
  readBack_obj _ _ fields

end Json

namespace Entries

variable {α β : Type} {rename : String → String} {name : String}

/-- Renaming keys does not hide the entry of a name that only it takes. -/
theorem get?_putAll_map (only : ∀ key, rename key = name ↔ key = name) (f : α → β)
    {entries : Entries α} (keys : entries.keys.Nodup) (before : Entries β) :
    (before.putAll (entries.map fun entry => (rename entry.1, f entry.2))).get? name =
      ((entries.get? name).map f).or (before.get? name) := by
  induction entries generalizing before with
  | nil => rfl
  | cons entry rest ih =>
    obtain ⟨key, value⟩ := entry
    obtain ⟨fresh, keys⟩ := List.nodup_cons.1 keys
    have step : before.putAll (((key, value) :: rest).map fun e => (rename e.1, f e.2)) =
        (before.put (rename key) (f value)).putAll (rest.map fun e => (rename e.1, f e.2)) := rfl
    rw [step, ih keys, get?_cons]
    by_cases same : name = key
    · have absent : get? rest name = none := by
        cases found : get? rest name with
        | none => rfl
        | some value => exact absurd (List.mem_map_of_mem (mem_of_get? found)) (same ▸ fresh)
      rw [absent, if_pos same, (only key).2 same.symm, get?_put_self]
      rfl
    · rw [if_neg same, get?_put_of_ne _ _ fun h => same ((only key).1 h.symm).symm]

theorem put_ne_nil (entries : Entries α) (key : String) (value : α) :
    entries.put key value ≠ [] := fun none => by
  have found := get?_put_self entries key value
  rw [none] at found
  cases found

theorem ofPairs_eq_nil_iff {pairs : List (String × α)} : ofPairs pairs = [] ↔ pairs = [] := by
  have filled (pairs : List (String × α)) {entries : Entries α} (ne : entries ≠ []) :
      entries.putAll pairs ≠ [] := by
    induction pairs generalizing entries with
    | nil => exact ne
    | cons pair pairs ih => exact ih (put_ne_nil entries pair.1 pair.2)
  cases pairs with
  | nil => exact iff_of_true rfl rfl
  | cons pair pairs =>
    exact iff_of_false (filled pairs (put_ne_nil [] pair.1 pair.2)) (List.cons_ne_nil _ _)

end Entries

namespace Json

theorem rejoinedFields_eq_nil_iff {fields : Entries Json} :
    rejoinedFields fields = [] ↔ fields = [] := by
  rw [rejoinedFields, Entries.ofPairs_eq_nil_iff, List.map_eq_nil_iff]

/-- The entry with an ASCII name is the one that had this name. -/
theorem get?_rejoinedFields {fields : Entries Json} (keys : fields.keys.Nodup) {name : String}
    (ascii : ∀ c ∈ name.toList, c.toNat < 0x80) :
    (rejoinedFields fields).get? name = (fields.get? name).map rejoined := by
  rw [rejoinedFields, Entries.ofPairs,
    Entries.get?_putAll_map (fun _ => rejoin_eq_iff_of_ascii ascii) _ keys]
  simp

end Json

/-! ## Checks of joined values -/

namespace Check

variable {α : Type}

theorem text_rejoined (v : Json) : text v.rejoined = (text v).map Json.rejoin := by
  cases v <;> rfl

theorem nullable_rejoined {check : Check α} {f : α → α} {v : Json}
    (h : check v.rejoined = (check v).map f) :
    nullable check v.rejoined = (nullable check v).map (Option.map f) := by
  cases v with
  | null => rfl
  | bool | int | float | str | arr | obj =>
    change (check _).map some = ((check _).map some).map (Option.map f)
    rw [h]
    cases check _ <;> rfl

theorem int_rejoin {s : String} (same : Text.hasHalf s.toList = true →
    Text.hasHalf (Json.rejoin s).toList = true) :
    int (.str (Json.rejoin s)) = int (.str s) := by
  cases half : Text.hasHalf s.toList with
  | true => simp only [int, plainText, half, same half, if_true]
  | false =>
    have whole : Text.splitsPair s.toList = false := by
      by_contra split
      rw [Text.hasHalf_of_splitsPair (by simpa using split)] at half
      cases half
    rw [Json.rejoin_of_whole whole]

theorem intFrom_rejoined {v : Json} {least : ℤ} (same : ∀ s, v = .str s →
    Text.hasHalf s.toList = true → Text.hasHalf (Json.rejoin s).toList = true) :
    intFrom least v.rejoined = intFrom least v := by
  cases v with
  | null | bool | int | float | arr | obj => rfl
  | str s =>
    have joined : (Json.str s).rejoined = .str (Json.rejoin s) := rfl
    rw [intFrom, intFrom, joined, int_rejoin (same s rfl)]

/-- A text without halves is not refused for halves. -/
theorem notUnicode_not_mem_issues {s : String} (whole : Text.hasHalf s.toList = false) {least : ℤ} :
    ⟨[], .notUnicode⟩ ∉ (intFrom least (.str s)).issues := by
  simp only [intFrom, int, plainText, whole, Bool.false_eq_true, if_false]
  cases Numeral.readLaxWhole s with
  | ok n => by_cases low : least ≤ n <;> simp [Checked.filter, Checked.issues, Checked.fail, low]
  | error e => cases e <;> simp [Checked.filter, Checked.issues, Checked.fail]

theorem withDefault_rejoined {fields : Entries Json} (keys : fields.keys.Nodup) {name : String}
    (ascii : ∀ c ∈ name.toList, c.toNat < 0x80) {check : Check α} {f : α → α} {default : α}
    (unchanged : f default = default)
    (h : ∀ v, fields.get? name = some v → check v.rejoined = (check v).map f) :
    withDefault (Json.rejoinedFields fields) name default check =
      (withDefault fields name default check).map f := by
  rw [withDefault, withDefault, Json.get?_rejoinedFields keys ascii]
  cases found : fields.get? name with
  | none => exact congrArg Checked.ok unchanged.symm
  | some v =>
    rw [Option.map_some]
    dsimp only
    rw [h v found]
    cases check v <;> rfl

end Check

/-! ## Lookups with joined halves -/

namespace Lookup

open Check

/-- The lookup with joined halves. -/
def rejoined (l : Lookup) : Lookup :=
  ⟨l.find.rejoined, l.field.map Json.rejoin, l.kind.map Json.rejoin, l.query.map Json.rejoin,
    l.size⟩

/-- The texts of a lookup. -/
def texts (l : Lookup) : List String :=
  l.find.texts ++ l.field.toList ++ l.kind.toList ++ l.query.toList

/-- Joining changes nothing in a lookup if and only if no text of it splits a pair. -/
theorem rejoined_eq_iff {l : Lookup} (wellFormed : l.find.WellFormed) :
    l.rejoined = l ↔ ∀ s ∈ l.texts, Text.splitsPair s.toList = false := by
  have option (text : Option String) :
      text.map Json.rejoin = text ↔ ∀ s ∈ text.toList, Text.splitsPair s.toList = false := by
    cases text <;> simp [Json.rejoin_eq_iff]
  obtain ⟨find, field, kind, query, size⟩ := l
  simp only [rejoined, texts, Lookup.mk.injEq, Json.rejoined, Json.readBack_eq_iff wellFormed,
    option, List.forall_mem_append, and_true, and_assoc]

/-- The size is a text with halves, and joining leaves none of them: it is refused for another
reason then, or taken for a number. -/
def MendsSize (fields : Entries Json) : Prop :=
  ∃ s, fields.get? "size" = some (.str s) ∧ Text.hasHalf s.toList = true ∧
    Text.hasHalf (Json.rejoin s).toList = false

/-- The check of everything in a lookup but its size. -/
def checkUnsized (fields : Entries Json) : Checked (Option ℤ → Lookup) :=
  Lookup.mk <$> withDefault fields "find" .null any
    <*> withDefault fields "field" none (nullable text)
    <*> withDefault fields "type" none (nullable text)
    <*> withDefault fields "query" none (nullable text)

/-- The check of the size of a lookup. -/
def checkSize (fields : Entries Json) : Checked (Option ℤ) :=
  withDefault fields "size" none (nullable (intFrom 0))

theorem check_obj (fields : Entries Json) :
    Lookup.check .notRecord (.obj fields) = (checkUnsized fields <*> checkSize fields) := rfl

theorem issues_checkSize {fields : Entries Json} {s : String}
    (found : fields.get? "size" = some (.str s)) :
    (checkSize fields).issues = (intFrom 0 (.str s)).issues.map (Issue.under (.name "size")) := by
  rw [checkSize, withDefault, found]
  refine (Checked.issues_under _ _).trans (congrArg _ ?_)
  exact Checked.issues_map some _

section

variable {fields : Entries Json} (keys : fields.keys.Nodup)
include keys

theorem checkUnsized_rejoined : checkUnsized (Json.rejoinedFields fields) =
    (fun sized n => (sized n).rejoined) <$> checkUnsized fields := by
  have text_ {name : String} (ascii : ∀ c ∈ name.toList, c.toNat < 0x80) :
      withDefault (Json.rejoinedFields fields) name none (nullable text) =
        (withDefault fields name none (nullable text)).map (Option.map Json.rejoin) :=
    withDefault_rejoined keys ascii rfl fun v _ => nullable_rejoined (text_rejoined v)
  have find : withDefault (Json.rejoinedFields fields) "find" .null any =
      (withDefault fields "find" .null any).map Json.rejoined :=
    withDefault_rejoined keys (by decide) rfl fun _ _ => rfl
  rw [checkUnsized, checkUnsized, find, text_ (by decide), text_ (by decide), text_ (by decide)]
  generalize withDefault fields "find" .null any = find
  generalize withDefault fields "field" none (nullable text) = field
  generalize withDefault fields "type" none (nullable text) = kind
  generalize withDefault fields "query" none (nullable text) = query
  cases find <;> cases field <;> cases kind <;> cases query <;> rfl

theorem checkSize_rejoined (kept : ¬ MendsSize fields) :
    checkSize (Json.rejoinedFields fields) = checkSize fields := by
  have unmapped (checked : Checked (Option ℤ)) : checked.map (Option.map id) = checked := by
    cases checked <;> simp [Checked.map]
  refine (withDefault_rejoined keys (by decide) rfl fun v found => ?_).trans (unmapped _)
  refine nullable_rejoined ((intFrom_rejoined fun s text half => ?_).trans ?_)
  · subst text
    by_contra mended
    exact kept ⟨s, found, half, by simpa using mended⟩
  · cases intFrom 0 v <;> rfl

/-- A lookup is checked with joined halves as it is without, unless joining mends its size. -/
theorem check_rejoined (kept : ¬ MendsSize fields) :
    Lookup.check .notRecord (Json.obj fields).rejoined =
      (Lookup.check .notRecord (.obj fields)).map rejoined := by
  rw [Json.rejoined_obj, check_obj, check_obj, checkUnsized_rejoined keys,
    checkSize_rejoined keys kept]
  cases checkUnsized fields <;> cases checkSize fields <;> rfl

/-- A size with halves is refused for them, which it is not once they are joined. -/
theorem check_rejoined_ne (mended : MendsSize fields) :
    Lookup.check .notRecord (Json.obj fields).rejoined ≠ Lookup.check .notRecord (.obj fields) := by
  obtain ⟨s, found, half, whole⟩ := mended
  have found' : (Json.rejoinedFields fields).get? "size" = some (.str (Json.rejoin s)) := by
    rw [Json.get?_rejoinedFields keys (by decide), found]
    rfl
  have refused : ⟨[], .notUnicode⟩ ∈ (intFrom 0 (.str s)).issues := by
    simp [intFrom, int, plainText, half, Checked.filter, Checked.issues, Checked.fail]
  intro same
  have issues := congrArg Checked.issues same
  rw [Json.rejoined_obj, check_obj, check_obj, checkUnsized_rejoined keys, Checked.issues_seq,
    Checked.issues_seq, Checked.issues_map, issues_checkSize found,
    issues_checkSize found'] at issues
  have injective : Function.Injective (Issue.under (.name "size")) := fun a b h => by
    cases a
    cases b
    simpa [Issue.under] using h
  have unrefused := List.map_injective_iff.2 injective (List.append_cancel_left issues)
  rw [← unrefused] at refused
  exact notUnicode_not_mem_issues whole refused

end

/-! ## Reading -/

theorem read_obj (fields : Entries Json) : read (.obj fields) = if fields = [] then .ok none else
    some <$> (Lookup.check .notRecord (.obj fields)).outcome "MetaQuery" := by
  cases fields <;> rfl

/-- A text is read as what the object in it comes back as. -/
theorem read_str_spacedText {fields : Entries Json} (legible : (Json.obj fields).Legible) :
    read (.str (Json.obj fields).spacedText) = read (Json.obj fields).rejoined := by
  have readable : Json.read (Json.obj fields).spacedText = .ok (Json.obj fields).rejoined :=
    Json.readText_spacedText rfl legible
  have shown : (Json.str (Json.obj fields).spacedText).truthy = true := by
    rw [Json.truthy, Json.spacedText, Json.render]
    simp
  rw [read, if_pos shown]
  simp only [readable]
  rw [Json.rejoined_obj]
  cases Json.rejoinedFields fields <;> rfl

theorem wellFormed_find {fields : Entries Json} (wellFormed : (Json.obj fields).WellFormed)
    {l : Lookup} (checked : Lookup.check .notRecord (.obj fields) = .ok l) :
    l.find.WellFormed := by
  obtain ⟨_, _, unsized, -, rfl⟩ := Checked.seq_eq_ok.1 checked
  obtain ⟨_, _, unasked, -, rfl⟩ := Checked.seq_eq_ok.1 unsized
  obtain ⟨_, _, unkind, -, rfl⟩ := Checked.seq_eq_ok.1 unasked
  obtain ⟨_, _, named, -, rfl⟩ := Checked.seq_eq_ok.1 unkind
  obtain ⟨find, found, rfl⟩ := Checked.map_eq_ok.1 named
  cases wellFormed with
  | obj _ parts =>
    rcases withDefault_eq_ok.1 found with ⟨-, rfl⟩ | ⟨value, given, passed⟩
    · exact .null
    · cases passed
      exact parts _ (Entries.mem_of_get? given)

theorem outcome_inj {a b : Checked Lookup} :
    some <$> a.outcome "MetaQuery" = some <$> b.outcome "MetaQuery" ↔ a = b := by
  cases a <;> cases b <;> simp [Checked.outcome, Functor.map, Except.map]

/-- An object asks for the same before and after joining unless joining mends its size or changes a
text of the lookup. -/
theorem read_rejoined_iff {fields : Entries Json} (wellFormed : (Json.obj fields).WellFormed) :
    read (Json.obj fields).rejoined = read (.obj fields) ↔
      ¬ MendsSize fields ∧ ∀ l, read (.obj fields) = .ok (some l) →
        ∀ s ∈ l.texts, Text.splitsPair s.toList = false := by
  have keys : fields.keys.Nodup := by
    cases wellFormed with
    | obj keys _ => exact keys
  by_cases none : fields = []
  · subst none
    exact iff_of_true rfl ⟨fun ⟨_, found, _⟩ => (nomatch found), fun _ asked => (nomatch asked)⟩
  have asks (l : Lookup) : read (.obj fields) = .ok (some l) ↔
      Lookup.check .notRecord (.obj fields) = .ok l := by
    rw [read_obj, if_neg none]
    cases Lookup.check .notRecord (.obj fields) <;> simp [Checked.outcome, Functor.map, Except.map]
  have unmapped : (Lookup.check .notRecord (.obj fields)).map rejoined =
      Lookup.check .notRecord (.obj fields) ↔ ∀ l, read (.obj fields) = .ok (some l) →
        ∀ s ∈ l.texts, Text.splitsPair s.toList = false := by
    simp only [asks]
    cases checked : Lookup.check .notRecord (.obj fields) with
    | bad issues => simp [Checked.map]
    | ok l => simp [Checked.map, rejoined_eq_iff (wellFormed_find wellFormed checked)]
  have joined : read (Json.obj fields).rejoined =
      some <$> (Lookup.check .notRecord (Json.obj fields).rejoined).outcome "MetaQuery" := by
    rw [Json.rejoined_obj, read_obj, if_neg (mt Json.rejoinedFields_eq_nil_iff.1 none)]
  rw [← unmapped, joined, read_obj, if_neg none, outcome_inj]
  constructor
  · intro same
    have kept : ¬ MendsSize fields := fun mended => check_rejoined_ne keys mended same
    exact ⟨kept, (check_rejoined keys kept).symm.trans same⟩
  · rintro ⟨kept, same⟩
    exact (check_rejoined keys kept).trans same

end Lookup

theorem Datasource.lookup_of_read {raw other : Json} (same : Lookup.read raw = Lookup.read other)
    (d : Datasource) (vars : Template.Variables) (range : TimeRange) :
    d.lookup raw vars = d.lookup other vars ∧
      d.find ⟨raw, vars, range⟩ = d.find ⟨other, vars, range⟩ := by
  have lookup (vars : Template.Variables) : d.lookup raw vars = d.lookup other vars := by
    rw [Datasource.lookup, Datasource.lookup, same]
  refine ⟨lookup vars, ?_⟩
  rw [Datasource.find, Datasource.find, lookup]
  rfl

namespace Lookup

open Check

/-- The text of an object asks for what the object asks for once halves that make a pair are joined.
It asks for the same, and so gets the same, if no text of the object splits a pair, and in general
if and only if no text of the lookup does and the size is no text that joining mends. -/
theorem read_text_eq_iff {fields : Entries Json} (wellFormed : (Json.obj fields).WellFormed)
    (legible : (Json.obj fields).Legible) :
    let object := Json.obj fields
    let text := Json.str object.spacedText
    read text = read object.rejoined ∧
    (read text = read object ↔ ¬ MendsSize fields ∧
      ∀ l, read object = .ok (some l) → ∀ s ∈ l.texts, Text.splitsPair s.toList = false) ∧
    ((∀ s ∈ object.texts, Text.splitsPair s.toList = false) → read text = read object) ∧
    (read text = read object → ∀ (d : Datasource) (vars : Template.Variables) (range : TimeRange),
      d.lookup text vars = d.lookup object vars ∧
        d.find ⟨text, vars, range⟩ = d.find ⟨object, vars, range⟩) := by
  intro object text
  have joined : read text = read object.rejoined := read_str_spacedText legible
  refine ⟨joined, ?_, fun whole => ?_, fun same => Datasource.lookup_of_read same⟩
  · rw [joined]
    exact read_rejoined_iff wellFormed
  · have same : object.rejoined = object := (Json.readBack_eq_iff wellFormed).2 whole
    rw [joined, same]

/-- A high half and a low half. -/
def halves : String := .ofList [Text.ofUnit 0xd83d, Text.ofUnit 0xde00]

/-- A lookup with halves under a key that is not looked at. -/
def termsBesideHalves : Entries Json :=
  [("find", .str "terms"), ("field", .str "host\n\"é\""), (halves, .arr [.int 5, .str halves]),
    ("size", .int 10)]

/-- Halves under a key that is not looked at make no difference. -/
theorem termsBesideHalves_read : (Json.obj termsBesideHalves).WellFormed ∧
    (Json.obj termsBesideHalves).Legible ∧
    read (.str (Json.obj termsBesideHalves).spacedText) = read (.obj termsBesideHalves) := by
  have wellFormed : (Json.obj termsBesideHalves).WellFormed := by
    refine .obj (by decide +kernel) ?_
    simp only [termsBesideHalves, List.forall_mem_cons]
    exact ⟨.str _, .str _, .arr (by simp [Json.WellFormed.int, Json.WellFormed.str]), .int _,
      by simp⟩
  have legible : (Json.obj termsBesideHalves).Legible := by
    refine .obj ?_
    simp only [termsBesideHalves, List.forall_mem_cons]
    exact ⟨.str _, .str _, .arr (by simpa [Json.Legible.str] using .int (by decide)),
      .int (by decide), by simp⟩
  have size : Entries.get? termsBesideHalves "size" = some (.int 10) := rfl
  have asked : read (.obj termsBesideHalves) =
      .ok (some ⟨.str "terms", some "host\n\"é\"", none, none, some 10⟩) := by
    with_unfolding_all rfl
  refine ⟨wellFormed, legible, (read_text_eq_iff wellFormed legible).2.1.2 ⟨?_, ?_⟩⟩
  · rintro ⟨s, found, -⟩
    cases size.symm.trans found
  · intro l found
    cases asked.symm.trans found
    decide

theorem read_size_of_fail {s : String} {flaw : Flaw} (failed : int (.str s) = .fail flaw) :
    read (.obj [("size", .str s)]) = .error (.invalid "MetaQuery" [⟨[.name "size"], flaw⟩]) := by
  have unsized : checkUnsized [("size", .str s)] = .ok (Lookup.mk .null none none none) := by
    simp [checkUnsized, withDefault, Entries.get?_cons, Functor.map, Checked.map, Seq.seq,
      Checked.ap]
  have size : checkSize [("size", .str s)] = .bad [⟨[.name "size"], flaw⟩] := by
    simp [checkSize, withDefault, Entries.get?_cons, nullable, intFrom, failed, Checked.fail,
      Checked.filter, Checked.map, Checked.under, Issue.under]
  rw [read_obj, if_neg (List.cons_ne_nil _ _), check_obj, unsized, size]
  rfl

/-- A size whose halves make a pair. -/
def sizeOfHalves : Entries Json := [("size", .str halves)]

/-- In an object a size with halves is refused for the halves, in a text for being no number. -/
theorem sizeOfHalves_told_apart :
    (Json.obj sizeOfHalves).WellFormed ∧ (Json.obj sizeOfHalves).Legible ∧
    read (.obj sizeOfHalves) =
      .error (.invalid "MetaQuery" [⟨[.name "size"], .notUnicode⟩]) ∧
    read (.str (Json.obj sizeOfHalves).spacedText) =
      .error (.invalid "MetaQuery" [⟨[.name "size"], .unreadableInt⟩]) ∧
    read (.str (Json.obj sizeOfHalves).spacedText) ≠ read (.obj sizeOfHalves) := by
  have legible : (Json.obj sizeOfHalves).Legible :=
    .obj (List.forall_mem_singleton.2 (.str halves))
  have joined : Json.rejoin halves = "😀" := by decide +kernel
  have kept : Json.rejoin "size" = "size" := Json.rejoin_of_whole (by decide)
  have rejoined : (Json.obj sizeOfHalves).rejoined = .obj [("size", .str "😀")] := by
    have fields : Json.rejoinedFields sizeOfHalves =
        [(Json.rejoin "size", .str (Json.rejoin halves))] := rfl
    rw [Json.rejoined_obj, fields, joined, kept]
  have asObject : read (.obj sizeOfHalves) =
      .error (.invalid "MetaQuery" [⟨[.name "size"], .notUnicode⟩]) := by
    have half : Text.hasHalf halves.toList = true := by decide +kernel
    refine read_size_of_fail ?_
    rw [int, plainText, if_pos half]
  have asText : read (.str (Json.obj sizeOfHalves).spacedText) =
      .error (.invalid "MetaQuery" [⟨[.name "size"], .unreadableInt⟩]) := by
    have whole : Text.hasHalf "😀".toList = false := by decide
    have unread : Numeral.readLaxWhole "😀" = .error .unreadable := by decide +kernel
    rw [read_str_spacedText legible, rejoined]
    refine read_size_of_fail ?_
    simp only [int, plainText, whole, unread, Bool.false_eq_true, if_false]
  refine ⟨.obj (by decide) (List.forall_mem_singleton.2 (.str halves)), legible, asObject, asText,
    ?_⟩
  rw [asObject, asText]
  simp

end Lookup

end ElasticPanels
