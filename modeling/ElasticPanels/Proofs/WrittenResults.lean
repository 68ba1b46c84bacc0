import ElasticPanels.Proofs.Checks
import ElasticPanels.Result.Series
import ElasticPanels.Service.Response

/-!
# Written results

The results of a batch are read back from their wire form (`PanelResult.response_reads_back`).  A
written list of documents is no series, for it has no target.  A written series without datapoints
is a list of documents as well (`Documents.check_series_iff`), but it has more of the fields of a
series, and this decides.  The wire format has null in place of a number that is not finite, so what
comes back there are the results without these numbers (`PanelResult.finitePart`).
-/

namespace ElasticPanels

/-! ## Finite parts -/

theorem map_eq_self_iff {α : Type} {f : α → α} {as : List α} :
    as.map f = as ↔ ∀ a ∈ as, f a = a := by
  calc as.map f = as ↔ as.map f = as.map id := by rw [List.map_id]
    _ ↔ ∀ a ∈ as, f a = a := List.map_inj_left

namespace Json

theorem isFinite_arr {items : List Json} :
    (arr items).isFinite = true ↔ ∀ item ∈ items, item.isFinite = true := by
  rw [isFinite, areFinite_eq, List.all_eq_true]

theorem isFinite_obj {fields : List (String × Json)} :
    (obj fields).isFinite = true ↔ ∀ field ∈ fields, field.2.isFinite = true := by
  rw [isFinite, areFiniteFields_eq, List.all_eq_true]

/-- The values that stay as they are on the wire are those whose numbers are finite. -/
theorem finitePart_eq_self_iff {v : Json} : v.finitePart = v ↔ v.isFinite = true := by
  induction v using inductionOnParts with
  | null | bool | int | str => simp [finitePart, isFinite]
  | float x => simp [finitePart, isFinite]
  | arr items ih =>
    rw [isFinite_arr, finitePart, finiteParts_eq, arr.injEq, map_eq_self_iff]
    exact forall₂_congr ih
  | obj fields ih =>
    rw [isFinite_obj, finitePart, finiteFields_eq, obj.injEq, map_eq_self_iff]
    refine forall₂_congr fun field mem => ?_
    rw [← ih field mem, Prod.ext_iff, and_iff_right rfl]

end Json

/-- The series with null in place of each number that is not finite. -/
def TimeSeries.finitePart (s : TimeSeries) : TimeSeries :=
  { s with datapoints := s.datapoints.map fun point =>
      (point.1.filter Binary64.isFinite, point.2.finitePart) }

/-- The documents with null in place of each number that is not finite. -/
def Documents.finitePart (d : Documents) : Documents :=
  { d with documents := d.documents.map Json.finiteFields }

/-- The result with null in place of each number that is not finite. -/
def PanelResult.finitePart : PanelResult → PanelResult
  | series s => .series s.finitePart
  | documents d => .documents d.finitePart

theorem finitePart_numberJson (number : Option Binary64) :
    (numberJson number).finitePart = numberJson (number.filter Binary64.isFinite) := by
  cases number with
  | none => rfl
  | some x =>
    rw [numberJson, Json.finitePart, Option.filter_some]
    split_ifs <;> rfl

theorem TimeSeries.finitePart_toJson (s : TimeSeries) :
    s.toJson.finitePart = s.finitePart.toJson := by
  simp [toJson, finitePart, Json.finitePart, Json.finiteFields, Json.finiteParts,
    Json.finiteParts_eq, finitePart_numberJson]

theorem Documents.finitePart_toJson (d : Documents) :
    d.toJson.finitePart = d.finitePart.toJson := by
  simp [toJson, finitePart, Json.finitePart, Json.finiteFields, Json.finiteParts_eq]

namespace PanelResult

theorem finitePart_toJson (r : PanelResult) : r.toJson.finitePart = r.finitePart.toJson := by
  cases r with
  | series s => exact s.finitePart_toJson
  | documents d => exact d.finitePart_toJson

theorem finitePart_responseJson (results : List PanelResult) :
    (responseJson results).finitePart = responseJson (results.map finitePart) := by
  simp [responseJson, Json.finitePart, Json.finiteFields, Json.finiteParts_eq, finitePart_toJson]

end PanelResult

/-! ## Results read back -/

section

variable (wrong : Flaw)

theorem Check.list_map {α : Type} {check : Check α} {write : α → Json}
    (read : ∀ x, check (write x) = .ok x) (xs : List α) :
    Check.list check (.arr (xs.map write)) = .ok xs :=
  Check.list_eq_ok.2 ⟨_, rfl, List.forall₂_map_left_iff.2 (List.forall₂_same.2 fun x _ => read x)⟩

theorem TimeSeries.checkDatapoint_pair (point : Option Binary64 × Json) :
    checkDatapoint (.arr [numberJson point.1, point.2]) = .ok point := by
  obtain ⟨_ | x, key⟩ := point <;> rfl

theorem TimeSeries.check_toJson (s : TimeSeries) : TimeSeries.check wrong s.toJson = .ok s := by
  have parts : TimeSeries.check wrong s.toJson = .ok (TimeSeries.mk s.target s.refId) <*>
      Checked.under (.name "datapoints") (Check.list checkDatapoint
        (.arr (s.datapoints.map fun point => .arr [numberJson point.1, point.2]))) := rfl
  rw [parts, Check.list_map checkDatapoint_pair]
  rfl

theorem Documents.check_toJson (d : Documents) : Documents.check wrong d.toJson = .ok d := by
  have parts : Documents.check wrong d.toJson = .ok (Documents.mk d.refId d.total) <*>
      Checked.under (.name "datapoints") (Check.list Check.object
        (.arr (d.documents.map .obj))) := rfl
  have object (fields : Entries Json) : Check.object (.obj fields) = .ok fields := rfl
  rw [parts, Check.list_map object]
  rfl

/-- A written list of documents has no target. -/
theorem TimeSeries.check_documents (d : Documents) :
    ∃ issues, TimeSeries.check wrong d.toJson = .bad issues := ⟨_, rfl⟩

/-- A written series is a list of documents as well if and only if it has no datapoints. -/
theorem Documents.check_series_iff (s : TimeSeries) :
    (∃ d, Documents.check wrong s.toJson = .ok d) ↔ s.datapoints = [] := by
  have parts : Documents.check wrong s.toJson = .ok (Documents.mk s.refId 0) <*>
      Checked.under (.name "datapoints") (Check.list Check.object
        (.arr (s.datapoints.map fun point => .arr [numberJson point.1, point.2]))) := rfl
  rw [parts]
  cases s.datapoints with
  | nil => exact iff_of_true ⟨_, rfl⟩ rfl
  | cons point rest =>
    refine iff_of_false ?_ (List.cons_ne_nil _ _)
    rintro ⟨d, checked⟩
    obtain ⟨_, documents, -, listed, -⟩ := Checked.seq_eq_ok.1 checked
    obtain ⟨_, ⟨⟩, each⟩ := Check.list_eq_ok.1 (Checked.under_eq_ok.1 listed)
    cases each with
    | cons first => cases first

namespace PanelResult

/-- A result is read back as the kind that it was, with all its fields. -/
theorem check_toJson (r : PanelResult) : PanelResult.check wrong r.toJson = .ok r := by
  cases r with
  | series s =>
    -- Where both readings fit, three fields of a series are present and two of the documents.
    rw [toJson, PanelResult.check, s.check_toJson]
    cases Documents.check wrong s.toJson with
    | ok d => rfl
    | bad issues => rfl
  | documents d =>
    obtain ⟨issues, untargeted⟩ := TimeSeries.check_documents wrong d
    rw [toJson, PanelResult.check, untargeted, d.check_toJson]

theorem toJson_injective : Function.Injective toJson := fun r r' same => by
  have read := check_toJson .notRecord r
  rw [same, check_toJson] at read
  exact (Checked.ok.inj read).symm

theorem finitePart_eq_self_iff {r : PanelResult} :
    r.finitePart = r ↔ r.toJson.isFinite = true := by
  rw [← Json.finitePart_eq_self_iff, finitePart_toJson, toJson_injective.eq_iff]

theorem checkResponse_responseJson (results : List PanelResult) :
    checkResponse wrong (responseJson results) = .ok results := by
  have parts : checkResponse wrong (responseJson results) = Checked.under (.name "data")
      (Check.list (PanelResult.check wrong) (.arr (results.map toJson))) := rfl
  rw [parts, Check.list_map (check_toJson wrong)]
  rfl

end PanelResult

end

/-- A value is sent if nothing keeps it from being written, and what is sent is its finite part. -/
theorem Response.ofResult_eq_ok {value : Json} {j : Journal} {response : Response} :
    ((ofResult value).run.run j).1 = .ok response ↔
      value.obstacle? depthLimit = none ∧ response = ⟨200, .json value.finitePart⟩ := by
  have faulty (fault : Fault) : ((throw fault : Session Response).run.run j).1 ≠ .ok response :=
    fun sent => nomatch sent
  rw [ofResult]
  cases value.obstacle? depthLimit with
  | none =>
    rw [and_iff_right rfl]
    exact ⟨fun sent => (Except.ok.inj sent).symm, fun same => congrArg Except.ok same.symm⟩
  | some obstacle =>
    refine iff_of_false ?_ (by rintro ⟨⟨⟩, -⟩)
    cases obstacle with
    | depth => exact faulty _
    | gap gap => exact faulty _

/-- The results of a batch are read back from their wire form, each as the kind that it was.  The
service sends null in place of each number that is not finite, if the results can be sent at all;
from that, what is left of them is read back, and this is all of them if and only if each number is
finite. -/
theorem PanelResult.response_reads_back (wrong : Flaw) (results : List PanelResult) :
    let written := responseJson results
    checkResponse wrong written = .ok results ∧
    checkResponse wrong written.finitePart = .ok (results.map finitePart) ∧
    (checkResponse wrong written.finitePart = .ok results ↔
      ∀ r ∈ results, r.toJson.isFinite = true) ∧
    ∀ j response, ((Response.ofResult written).run.run j).1 = .ok response ↔
      written.obstacle? Response.depthLimit = none ∧
        response = ⟨200, .json written.finitePart⟩ := by
  intro written
  have rest : checkResponse wrong written.finitePart = .ok (results.map finitePart) := by
    rw [finitePart_responseJson, checkResponse_responseJson]
  refine ⟨checkResponse_responseJson wrong results, rest, ?_, fun j response =>
    Response.ofResult_eq_ok⟩
  rw [rest, Checked.ok.injEq, map_eq_self_iff]
  exact forall₂_congr fun r _ => finitePart_eq_self_iff

end ElasticPanels
