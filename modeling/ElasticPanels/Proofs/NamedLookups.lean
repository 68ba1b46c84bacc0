import ElasticPanels.Proofs.ComposedRequests

/-!
# Lookups under names of their own

The terms of a field, the fields of a kind and all fields are also listed without a lookup request.
A request for the same differs in what has to be checked and in what has to be expanded, but it
comes to the same lookup (`ofField_eq_asked`, `ofKind_eq`).  So it does the same and finds the same,
but that it is counted as a lookup before anything else (`Session.CountsFirst`), which what comes
after it does not see (`Session.Blind.run_counted`).  This is stated in `named_lookups_agree`.
-/

namespace ElasticPanels

open Session Telemetry

/-! ## Operations that count first -/

namespace Session

variable {α β : Type}

/-- From every journal the first operation does what the second does, but that it counts the event
before anything else: it ends in the same fault or in what `f` makes of the same result, and leaves
the same journal, with the same requests in it, but for the event before those of the second. -/
def CountsFirst (event : Event) (f : β → α) (first : Session α) (second : Session β) : Prop :=
  ∀ j : Journal, ∃ counted, (second.run.run j).2.events = j.events ++ counted ∧
    first.run.run j = ((second.run.run j).1.map f,
      { (second.run.run j).2 with events := j.events ++ event :: counted })

/-- An operation that does not look at the record does not see what was counted before. -/
theorem Blind.run_counted {x : Session α} (h : Blind x) (event : Event) (j : Journal) :
    ∃ counted, (x.run.run j).2.events = j.events ++ counted ∧
      x.run.run { j with events := j.events ++ [event] } =
        ((x.run.run j).1, { (x.run.run j).2 with events := j.events ++ event :: counted }) := by
  have fresh : ({ j with events := j.events ++ [event] } : Journal).fresh = j.fresh := rfl
  refine ⟨(x.run.run j.fresh).2.events, ?_, ?_⟩
  · rw [h.run_eq]
    rfl
  · rw [h.run_eq, fresh, h.run_eq j]
    simp [Journal.after]

theorem countsFirst_of_blind {x : Session β} (h : Blind x) (event : Event) (f : β → α) :
    CountsFirst event f (do count event; f <$> x) x := by
  intro j
  obtain ⟨counted, events, run⟩ := h.run_counted event j
  refine ⟨counted, events, ?_⟩
  rw [run_bind_of_ok (run_count event j), run_map_eq, run]

end Session

/-! ## The same lookups -/

/-- The request for all terms of a field, without variables and in the usual time range. -/
def LookupRequest.forTerms (field : String) : LookupRequest :=
  ⟨.obj [("find", .str "terms"), ("field", .str field)], [], .default⟩

/-- A request for the fields of a kind, or for all fields if none is given. -/
def LookupRequest.forFields (kind : Option String) (vars : Template.Variables)
    (range : TimeRange) : LookupRequest :=
  ⟨.obj [("find", .str "fields"), ("type", .ofText? kind)], vars, range⟩

/-- What a request for all terms of a field asks for before its query is expanded. -/
def Lookup.forTerms (field : String) : Lookup := ⟨.str "terms", some field, none, none, none⟩

/-- What a request for fields asks for. -/
def Lookup.forFields (kind : Option String) : Lookup := ⟨.str "fields", none, kind, none, none⟩

namespace Lookup

theorem read_forTerms (field : String) :
    read (LookupRequest.forTerms field).query = .ok (some (forTerms field)) := rfl

theorem read_forFields (kind : Option String) (vars : Template.Variables) (range : TimeRange) :
    read (LookupRequest.forFields kind vars range).query = .ok (some (forFields kind)) := by
  cases kind <;> rfl

/-- No variable stands in the query that matches everything. -/
theorem replace_all (vars : Template.Variables) : vars.replace (queryOrAll "") "lucene" = "*" :=
  rfl

/-- The lookup of a field by its name is that of the request, once its query is expanded. -/
theorem ofField_eq_asked (field : String) (vars : Template.Variables) :
    ofField (.str field) = .ok ((forTerms field).asked vars) := by
  have expanded : (forTerms field).asked vars = { forTerms field with query := some "*" } := by
    rw [asked]
    exact congrArg (fun text => { forTerms field with query := some text }) (replace_all vars)
  rw [expanded]
  rfl

theorem ofKind_eq (kind : Option String) : ofKind (.ofText? kind) = .ok (forFields kind) := by
  cases kind <;> rfl

end Lookup

/-! ## The same operations -/

namespace Datasource

variable (d : Datasource)

theorem find_forTerms (field : String) :
    d.find (.forTerms field) = (do
      count (.lookup .terms)
      Findings.terms <$> d.tagValues (.str field)) := by
  have named : d.tagValues (.str field) = d.fieldTerms
      ((Lookup.forTerms field).asked (withTimes [] .default lookupInterval))
      (withTimes [] .default lookupInterval) :=
    d.tagValues_eq (Lookup.ofField_eq_asked field _)
  have looked := d.lookup_of_terms (withTimes [] .default lookupInterval)
    (Lookup.read_forTerms field) rfl
  have found : d.find (.forTerms field) = (do
      let found ← d.lookup (LookupRequest.forTerms field).query
        (withTimes [] .default lookupInterval)
      return found.getD .nothing) := rfl
  rw [named, map_eq_pure_bind, found, looked]
  simp only [bind_assoc, pure_bind, Option.getD_some]

theorem find_forFields (kind : Option String) (vars : Template.Variables) (range : TimeRange) :
    d.find (.forFields kind vars range) = (do
      count (.lookup .fields)
      Findings.fields <$> d.fields (.ofText? kind)) := by
  have named : d.fields (.ofText? kind) = d.mappedFields (Lookup.forFields kind) := by
    rw [fields, Lookup.ofKind_eq]
    simp only [ofOutcome, pure_bind]
  rw [named, map_eq_pure_bind, find,
    d.lookup_of_fields _ (Lookup.read_forFields kind vars range) rfl]
  simp only [bind_assoc, pure_bind, Option.getD_some]

theorem blind_tagValues (field : Json) : Blind (d.tagValues field) :=
  have composed : Composed (fun _ _ => True) true (d.tagValues field) :=
    composed_tagValues trivial field
  composed.blind

theorem blind_fields (kind : Json) : Blind (d.fields kind) :=
  have composed : Composed (fun _ _ => True) true (d.fields kind) := composed_fields trivial kind
  composed.blind

/-- The terms of a field and the fields of a kind are listed by their names as by the requests for
them, which are only counted as lookups before: whatever the server does, the requests sent are the
same, and so is what is found or the fault.  To list all fields is to list those of no kind. -/
theorem named_lookups_agree (d : Datasource) :
    (∀ field : String, CountsFirst (.lookup .terms) Findings.terms
      (d.find (.forTerms field)) (d.tagValues (.str field))) ∧
    (∀ (kind : Option String) (vars : Template.Variables) (range : TimeRange),
      CountsFirst (.lookup .fields) Findings.fields
        (d.find (.forFields kind vars range)) (d.fields (.ofText? kind))) ∧
    d.tagKeys = d.fields .null := by
  refine ⟨fun field => ?_, fun kind vars range => ?_, d.tagKeys_eq⟩
  · rw [find_forTerms]
    exact countsFirst_of_blind (d.blind_tagValues (.str field)) _ _
  · rw [find_forFields]
    exact countsFirst_of_blind (d.blind_fields (.ofText? kind)) _ _

end Datasource

end ElasticPanels
