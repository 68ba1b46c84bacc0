import ElasticPanels.Fault
import Mathlib.Data.List.Forall2

/-!
# Outcomes

An outcome of several steps is a result if and only if each step has one (`Outcome.bind_eq_ok`,
`Outcome.mapM_eq_ok`), and the results of a list of steps are in its order.  A fault of a list of
checks is one of them (`Outcome.exists_of_forM_eq_error`).
-/

namespace ElasticPanels

theorem exists_of_forall₂ {α β : Type} {R : α → β → Prop} {as : List α} {bs : List β}
    (h : List.Forall₂ R as bs) {b : β} (hb : b ∈ bs) : ∃ a ∈ as, R a b := by
  induction h with
  | nil => simp at hb
  | cons first _ ih =>
    rcases List.mem_cons.1 hb with rfl | hb
    · exact ⟨_, by simp, first⟩
    · obtain ⟨a, ha, related⟩ := ih hb
      exact ⟨a, by simp [ha], related⟩

namespace Outcome

variable {ε α β γ : Type}

theorem bind_eq_ok {x : Except ε α} {f : α → Except ε β} {b : β} :
    x >>= f = .ok b ↔ ∃ a, x = .ok a ∧ f a = .ok b := by
  cases x <;> simp [bind, Except.bind]

theorem bind_eq_error {x : Except ε α} {f : α → Except ε β} {e : ε} :
    x >>= f = .error e ↔ x = .error e ∨ ∃ a, x = .ok a ∧ f a = .error e := by
  cases x <;> simp [bind, Except.bind]

theorem map_eq_ok {x : Except ε α} {f : α → β} {b : β} :
    x.map f = .ok b ↔ ∃ a, x = .ok a ∧ f a = b := by
  cases x <;> simp [Except.map]

theorem mapError_eq_ok {ε' : Type} {x : Except ε α} {f : ε → ε'} {a : α} :
    x.mapError f = .ok a ↔ x = .ok a := by
  cases x <;> simp [Except.mapError]

theorem mapError_eq_error {ε' : Type} {x : Except ε α} {f : ε → ε'} {e : ε'} :
    x.mapError f = .error e ↔ ∃ d, x = .error d ∧ f d = e := by
  cases x <;> simp [Except.mapError]

theorem pure_eq_ok {a b : α} : (pure a : Except ε α) = .ok b ↔ a = b := by
  simp [pure, Except.pure]

theorem forM_eq_ok {f : α → Outcome Unit} {as : List α} :
    forM as f = .ok () ↔ ∀ a ∈ as, f a = .ok () := by
  induction as with
  | nil => simp [pure, Except.pure]
  | cons a as ih =>
    rw [List.forM_cons, bind_eq_ok, List.forall_mem_cons, ih]
    exact ⟨fun ⟨_, here, later⟩ => ⟨here, later⟩, fun ⟨here, later⟩ => ⟨(), here, later⟩⟩

theorem exists_of_forM_eq_error {f : α → Outcome Unit} {as : List α} {fault : Fault}
    (h : forM as f = .error fault) : ∃ a ∈ as, f a = .error fault := by
  induction as with
  | nil => cases h
  | cons a as ih =>
    rw [List.forM_cons, bind_eq_error] at h
    rcases h with here | ⟨-, -, later⟩
    · exact ⟨a, by simp, here⟩
    · obtain ⟨b, hb, failed⟩ := ih later
      exact ⟨b, by simp [hb], failed⟩

theorem mapM_eq_ok {f : α → Outcome β} {as : List α} {bs : List β} :
    as.mapM f = .ok bs ↔ List.Forall₂ (fun a b => f a = .ok b) as bs := by
  induction as generalizing bs with
  | nil => simp [pure, Except.pure, eq_comm]
  | cons a as ih =>
    rw [List.mapM_cons, bind_eq_ok]
    simp only [bind_eq_ok, pure_eq_ok, ih]
    constructor
    · rintro ⟨b, hb, rest, hrest, rfl⟩
      exact .cons hb hrest
    · rintro (_ | ⟨hb, hrest⟩)
      exact ⟨_, hb, _, hrest, rfl⟩

/-- Steps that all give what they should give the list of it. -/
theorem mapM_of_forall₂ {f : α → Outcome β} {g : γ → β} {as : List α} {cs : List γ}
    (h : List.Forall₂ (fun a c => f a = .ok (g c)) as cs) :
    as.mapM f = .ok (cs.map g) :=
  mapM_eq_ok.2 (List.forall₂_map_right_iff.2 h)

theorem exists_mapM {f : α → Outcome β} {R : α → γ → Prop} {S : β → γ → Prop} {as : List α}
    {cs : List γ} (h : List.Forall₂ R as cs)
    (step : ∀ a c, R a c → ∃ b, f a = .ok b ∧ S b c) :
    ∃ bs, as.mapM f = .ok bs ∧ List.Forall₂ S bs cs := by
  induction h with
  | nil => exact ⟨[], rfl, .nil⟩
  | cons here _ ih =>
    obtain ⟨b, hb, first⟩ := step _ _ here
    obtain ⟨bs, hbs, others⟩ := ih
    exact ⟨b :: bs, by rw [List.mapM_cons, hb, hbs]; rfl, .cons first others⟩

theorem exists_of_mapM {f : α → Outcome β} {as : List α} {bs : List β} (h : as.mapM f = .ok bs)
    {b : β} (hb : b ∈ bs) : ∃ a ∈ as, f a = .ok b :=
  exists_of_forall₂ (mapM_eq_ok.1 h) hb

end Outcome

theorem Json.entryD_obj (fields : Entries Json) (key : String) (default : Json) :
    (Json.obj fields).entryD key default = .ok ((fields.get? key).getD default) := rfl

theorem Checked.outcome_eq_ok {α : Type} {record : String} {checked : Checked α} {a : α} :
    checked.outcome record = .ok a ↔ checked = .ok a := by
  cases checked <;> simp [Checked.outcome]

end ElasticPanels
