import ElasticPanels.Panel.Request
import ElasticPanels.Proofs.SearchBodies
import ElasticPanels.Result.Reply

/-!
# Checks that pass

A record passes its check if and only if each of its fields does, and a list if and only if each of
its items does.  So the queries of a request that was read from a text have such settings as a text
gives (`BatchRequest.isWire_of_check`), and a number of documents that a text can hold, since even a
number that is written as a text has a bounded number of digits (`isShort_of_int`).  A series that
passed keeps the names that it was made with (`PanelQuery.names_of_series`).
-/

namespace ElasticPanels

/-! ## Combined checks -/

namespace Checked

variable {α β : Type}

theorem map_eq_ok {f : α → β} {a : Checked α} {b : β} :
    f <$> a = .ok b ↔ ∃ x, a = .ok x ∧ f x = b := by
  cases a with
  | ok x => simp [Functor.map, map]
  | bad found => simp [Functor.map, map]

theorem seq_eq_ok {f : Checked (α → β)} {a : Checked α} {b : β} :
    f <*> a = .ok b ↔ ∃ g x, f = .ok g ∧ a = .ok x ∧ g x = b := by
  cases f <;> cases a <;> simp [Seq.seq, ap]

theorem under_eq_ok {step : Step} {a : Checked α} {x : α} : under step a = .ok x ↔ a = .ok x := by
  cases a <;> simp [under]

theorem filter_eq_ok {p : α → Bool} {flaw : Flaw} {a : Checked α} {x : α} :
    a.filter p flaw = .ok x ↔ a = .ok x ∧ p x = true := by
  cases a with
  | ok y =>
    by_cases h : p y = true
    · simp only [filter, h, if_true, ok.injEq]
      constructor
      · rintro rfl
        exact ⟨rfl, h⟩
      · exact And.left
    · simp only [filter, h, fail, ok.injEq]
      constructor
      · intro bad
        cases bad
      · rintro ⟨rfl, holds⟩
        exact absurd holds h
  | bad found => simp [filter]

theorem items_eq_ok {check : β → Checked α} {start : ℕ} {items : List β} {xs : List α} :
    Checked.items check start items = .ok xs ↔
      List.Forall₂ (fun item x => check item = .ok x) items xs := by
  induction items generalizing start xs with
  | nil => simp [Checked.items, eq_comm]
  | cons item items ih =>
    simp only [Checked.items, seq_eq_ok, map_eq_ok, under_eq_ok, ih]
    constructor
    · rintro ⟨_, others, ⟨x, first, rfl⟩, rest, rfl⟩
      exact .cons first rest
    · rintro (_ | ⟨first, rest⟩)
      exact ⟨_, _, ⟨_, first, rfl⟩, rest, rfl⟩

end Checked

namespace Check

variable {α : Type}

theorem nullable_eq_ok {check : Check α} {v : Json} {a : Option α} :
    nullable check v = .ok a ↔
      (v = .null ∧ a = none) ∨ (v ≠ .null ∧ ∃ x, check v = .ok x ∧ a = some x) := by
  have map (c : Checked α) : c.map some = .ok a ↔ ∃ x, c = .ok x ∧ a = some x := by
    cases c <;> simp [Checked.map, eq_comm]
  cases v <;> simp [nullable, map, eq_comm]

theorem list_eq_ok {check : Check α} {v : Json} {xs : List α} :
    list check v = .ok xs ↔
      ∃ items, v = .arr items ∧ List.Forall₂ (fun item x => check item = .ok x) items xs := by
  cases v <;> simp [list, Checked.items_eq_ok, Checked.fail]

theorem object_eq_ok {v : Json} {fields : Entries Json} :
    object v = .ok fields ↔ v = .obj fields := by
  cases v <;> simp [object, Checked.fail]

theorem record_eq_ok {wrong : Flaw} {read : Entries Json → Checked α} {v : Json} {a : α} :
    record wrong read v = .ok a ↔ ∃ fields, v = .obj fields ∧ read fields = .ok a := by
  cases v <;> simp [record, Checked.fail]

theorem withDefault_eq_ok {fields : Entries Json} {name : String} {default : α} {check : Check α}
    {a : α} :
    withDefault fields name default check = .ok a ↔
      (fields.get? name = none ∧ a = default) ∨
        ∃ value, fields.get? name = some value ∧ check value = .ok a := by
  unfold withDefault
  cases fields.get? name with
  | none => simp [eq_comm]
  | some value => simp [Checked.under_eq_ok]

end Check

/-! ## Whole numbers -/

theorem Text.asciiDigit?_lt {c : Char} {d : ℕ} (h : Text.asciiDigit? c = some d) : d < 10 := by
  apply Text.digitValue?_lt (c := c)
  rw [Text.digitValue?, h]

theorem exists_of_readCanonical {cs : List Char} {n : ℤ} (h : Numeral.readCanonical cs = .ok n) :
    ∃ negative, ∃ ds : List Char, n = Numeral.signed negative (ds.filterMap Text.asciiDigit?) ∧
      ds.length ≤ Numeral.digitLimit := by
  unfold Numeral.readCanonical at h
  dsimp only at h
  split_ifs at h <;> exact ⟨_, _, (Except.ok.inj h).symm, by omega⟩

theorem isShort_readCanonical {cs : List Char} {n : ℤ}
    (h : Numeral.readCanonical cs = .ok n) : IsShort n := by
  obtain ⟨negative, ds, rfl, short⟩ := exists_of_readCanonical h
  refine isShort_signed _ (fun d hd => ?_) ((List.length_filterMap_le _ _).trans short)
  obtain ⟨c, -, found⟩ := List.mem_filterMap.1 hd
  exact Text.asciiDigit?_lt found

theorem isShort_readLaxWhole {s : String} {n : ℤ} (h : Numeral.readLaxWhole s = .ok n) :
    IsShort n := by
  unfold Numeral.readLaxWhole at h
  split at h
  · split at h
    · exact isShort_readCanonical h
    · cases h
  · exact isShort_readCanonical h

theorem isShort_of_fitsWord {n : ℤ} (h : Check.fitsWord n = true) : IsShort n := by
  simp only [Check.fitsWord, Bool.and_eq_true, decide_eq_true_eq] at h
  exact isShort_of_lt (by omega : n.natAbs < 10 ^ 19) (by decide)

/-- A value that stands for a whole number stands for one that a text can hold. -/
theorem isShort_of_int {v : Json} (wire : v.IsWire) {n : ℤ} (h : Check.int v = .ok n) :
    IsShort n := by
  unfold Check.int at h
  split at h
  · obtain rfl := Checked.ok.inj h
    cases wire.legible with
    | int short => exact short
  · obtain rfl := Checked.ok.inj h
    split_ifs <;> exact isShort_of_lt (by decide : _ < 10 ^ 1) (by decide)
  · unfold Check.intOfFloat at h
    split at h
    · cases h
    · split_ifs at h with fraction fits
      · cases h
      · obtain rfl := Checked.ok.inj h
        exact isShort_of_fitsWord (Bool.and_eq_true_iff.1 fits).1
      · cases h
  · unfold Check.plainText at h
    split_ifs at h
    · cases h
    · dsimp only at h
      split at h
      · rename_i read
        obtain rfl := Checked.ok.inj h
        exact isShort_readLaxWhole read
      · cases h
      · cases h
  · cases h

/-! ## Records -/

section Settings

variable {fields : Entries Json} (wire : Json.IsWire (.obj fields))
include wire

theorem isWire_of_get? {name : String} {value : Json} (h : fields.get? name = some value) :
    value.IsWire := wire.of_mem_obj (Entries.mem_of_get? h)

theorem isWire_settings {default settings : Entries Json} (h : Check.withDefault fields "settings"
    default Check.object = .ok settings) (initial : ∀ setting ∈ default, setting.2.IsWire) :
    ∀ setting ∈ settings, setting.2.IsWire := by
  rcases Check.withDefault_eq_ok.1 h with ⟨-, rfl⟩ | ⟨value, found, checked⟩
  · exact initial
  · obtain rfl := Check.object_eq_ok.1 checked
    intro setting mem
    exact (isWire_of_get? wire found).of_mem_obj mem

/-- If each item of a list that is checked gives something, so does the field that holds it. -/
theorem forall_of_list {α : Type} {P : α → Prop} {check : Check α} {name : String}
    {default xs : List α} (h : Check.withDefault fields name default (Check.list check) = .ok xs)
    (initial : ∀ x ∈ default, P x)
    (each : ∀ v x, v.IsWire → check v = .ok x → P x) : ∀ x ∈ xs, P x := by
  rcases Check.withDefault_eq_ok.1 h with ⟨-, rfl⟩ | ⟨value, found, checked⟩
  · exact initial
  · obtain ⟨items, rfl, related⟩ := Check.list_eq_ok.1 checked
    intro x hx
    obtain ⟨v, hv, passed⟩ := exists_of_forall₂ related hx
    exact each v x ((isWire_of_get? wire found).of_mem_arr hv) passed

end Settings

theorem Metric.isWire_of_check {wrong : Flaw} {v : Json} {m : Metric} (wire : v.IsWire)
    (h : Metric.check wrong v = .ok m) : m.IsWire := by
  obtain ⟨fields, rfl, h₁⟩ := Check.record_eq_ok.1 h
  obtain ⟨_, settings, h₂, checked, rfl⟩ := Checked.seq_eq_ok.1 h₁
  obtain ⟨_, hide, h₃, -, rfl⟩ := Checked.seq_eq_ok.1 h₂
  obtain ⟨_, field, h₄, -, rfl⟩ := Checked.seq_eq_ok.1 h₃
  obtain ⟨_, kind, h₅, -, rfl⟩ := Checked.seq_eq_ok.1 h₄
  obtain ⟨id, -, rfl⟩ := Checked.map_eq_ok.1 h₅
  exact isWire_settings wire checked (by simp)

theorem Bucketing.isWire_of_check {wrong : Flaw} {v : Json} {b : Bucketing} (wire : v.IsWire)
    (h : Bucketing.check wrong v = .ok b) : b.IsWire := by
  obtain ⟨fields, rfl, h₁⟩ := Check.record_eq_ok.1 h
  obtain ⟨_, settings, h₂, checked, rfl⟩ := Checked.seq_eq_ok.1 h₁
  obtain ⟨_, field, h₃, -, rfl⟩ := Checked.seq_eq_ok.1 h₂
  obtain ⟨_, kind, h₄, -, rfl⟩ := Checked.seq_eq_ok.1 h₃
  obtain ⟨id, -, rfl⟩ := Checked.map_eq_ok.1 h₄
  exact isWire_settings wire checked (by simp)

theorem isShort_of_size {fields : Entries Json} (wire : Json.IsWire (.obj fields)) {name : String}
    {size : Option ℤ} (h : Check.withDefault fields name none
      (Check.nullable (Check.intFrom 0)) = .ok size) : ∀ n, size = some n → IsShort n := by
  rintro n rfl
  obtain ⟨-, none⟩ | ⟨value, found, checked⟩ := Check.withDefault_eq_ok.1 h
  · cases none
  · obtain ⟨-, none⟩ | ⟨-, k, checked, same⟩ := Check.nullable_eq_ok.1 checked
    · cases none
    · obtain rfl := Option.some.inj same
      exact isShort_of_int (isWire_of_get? wire found) (Checked.filter_eq_ok.1 checked).1

theorem PanelQuery.isWire_of_check {wrong : Flaw} {v : Json} {q : PanelQuery} (wire : v.IsWire)
    (h : PanelQuery.check wrong v = .ok q) : q.IsWire := by
  obtain ⟨fields, rfl, h₁⟩ := Check.record_eq_ok.1 h
  obtain ⟨_, buckets, h₂, bucketings, rfl⟩ := Checked.seq_eq_ok.1 h₁
  obtain ⟨_, metrics, h₃, listed, rfl⟩ := Checked.seq_eq_ok.1 h₂
  obtain ⟨_, timeField, h₄, -, rfl⟩ := Checked.seq_eq_ok.1 h₃
  obtain ⟨_, aliasPattern, h₅, -, rfl⟩ := Checked.seq_eq_ok.1 h₄
  obtain ⟨_, size, h₆, sized, rfl⟩ := Checked.seq_eq_ok.1 h₅
  obtain ⟨_, hide, h₇, -, rfl⟩ := Checked.seq_eq_ok.1 h₆
  obtain ⟨_, query, h₈, -, rfl⟩ := Checked.seq_eq_ok.1 h₇
  obtain ⟨refId, -, rfl⟩ := Checked.map_eq_ok.1 h₈
  refine ⟨isShort_of_size wire sized, ?_, ?_⟩
  · refine forall_of_list wire listed ?_ fun v m => Metric.isWire_of_check
    simp [Metric.IsWire, Metric.default]
  · refine forall_of_list wire bucketings ?_ fun v b => Bucketing.isWire_of_check
    simpa [Bucketing.IsWire, Bucketing.default] using Json.IsWire.str "auto"

/-- What a batch request consists of is checked field by field. -/
theorem BatchRequest.check_eq_ok {wrong : Flaw} {v : Json} {request : BatchRequest}
    (h : BatchRequest.check wrong v = .ok request) : ∃ fields, v = .obj fields ∧
      Check.withDefault fields "queries" [] (Check.list (PanelQuery.check wrong)) =
        .ok request.queries ∧
      Check.withDefault fields "adhoc_filters" [] (Check.list (AdhocFilter.check wrong)) =
        .ok request.filters ∧
      Check.withDefault fields "variables" [] Template.Variables.check = .ok request.vars ∧
      Check.withDefault fields "range" .default (TimeRange.check wrong) = .ok request.range ∧
      Check.withDefault fields "interval" "1m" Check.text = .ok request.interval := by
  obtain ⟨fields, rfl, h₁⟩ := Check.record_eq_ok.1 h
  obtain ⟨_, interval, h₂, last, rfl⟩ := Checked.seq_eq_ok.1 h₁
  obtain ⟨_, range, h₃, ranged, rfl⟩ := Checked.seq_eq_ok.1 h₂
  obtain ⟨_, vars, h₄, valued, rfl⟩ := Checked.seq_eq_ok.1 h₃
  obtain ⟨_, filters, h₅, filtered, rfl⟩ := Checked.seq_eq_ok.1 h₄
  obtain ⟨queries, asked, rfl⟩ := Checked.map_eq_ok.1 h₅
  exact ⟨fields, rfl, asked, filtered, valued, ranged, last⟩

/-- The queries of a request that was read from a text have settings such as a text gives. -/
theorem BatchRequest.isWire_of_check {wrong : Flaw} {v : Json} {request : BatchRequest}
    (wire : v.IsWire) (h : BatchRequest.check wrong v = .ok request) :
    ∀ q ∈ request.queries, q.IsWire := by
  obtain ⟨fields, rfl, listed, -⟩ := BatchRequest.check_eq_ok h
  exact forall_of_list wire listed (by simp) fun v q => PanelQuery.isWire_of_check

/-! ## Series -/

namespace PanelQuery

variable {q : PanelQuery} {name : String}

/-- A series has the name that it is made with, and belongs to its query. -/
theorem names_of_series {points : List (Json × Json)} {s : TimeSeries}
    (h : q.series name points = .ok s) : s.target = name ∧ s.refId = q.refId := by
  obtain ⟨read, -, rfl⟩ := Checked.map_eq_ok.1 (Checked.outcome_eq_ok.1 h)
  exact ⟨rfl, rfl⟩

theorem exists_series_of_single {points : Outcome (List (Json × Json))} {found : List TimeSeries}
    (h : (do return [← q.series name (← points)]) = Except.ok found) :
    ∃ s, found = [s] ∧ s.target = name ∧ s.refId = q.refId := by
  obtain ⟨read, -, h⟩ := Outcome.bind_eq_ok.1 h
  obtain ⟨s, made, h⟩ := Outcome.bind_eq_ok.1 h
  exact ⟨s, (Outcome.pure_eq_ok.1 h).symm, names_of_series made⟩

end PanelQuery

end ElasticPanels
