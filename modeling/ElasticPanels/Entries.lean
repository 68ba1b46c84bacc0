/-!
# Ordered entries

An object, a set of variables and a set of labels are lists of keyed entries in the order in which
the keys were first written.  `Entries.put` overwrites an entry in its place and adds a new one at
the end, so `Entries.ofPairs` keeps the first place and the last value of a repeated key.
-/

namespace ElasticPanels

/-- Keyed entries in the order of their first writing. -/
abbrev Entries (α : Type) := List (String × α)

namespace Entries

variable {α : Type}

/-- The value under `key`. -/
def get? (entries : Entries α) (key : String) : Option α := entries.lookup key

/-- The keys in order. -/
def keys (entries : Entries α) : List String := entries.map Prod.fst

/-- The values in order. -/
def values (entries : Entries α) : List α := entries.map Prod.snd

/-- Writes `value` under `key`, in the place of the entry that has this key, else at the end. -/
def put : Entries α → String → α → Entries α
  | [], key, value => [(key, value)]
  | (k, v) :: rest, key, value =>
    if k = key then (k, value) :: rest else (k, v) :: put rest key value

/-- Writes the second list of entries over the first. -/
def putAll (entries additions : Entries α) : Entries α :=
  additions.foldl (fun acc entry => acc.put entry.1 entry.2) entries

/-- The entries that writing the given pairs one after the other leaves. -/
def ofPairs (pairs : List (String × α)) : Entries α := putAll [] pairs

/-! ### What `put` does to the two views -/

@[simp] theorem get?_nil (key : String) : get? ([] : Entries α) key = none := rfl

theorem get?_cons (k : String) (v : α) (rest : Entries α) (key : String) :
    get? ((k, v) :: rest) key = if key = k then some v else get? rest key := by
  by_cases h : key = k
  · simp [get?, h]
  · simp [get?, List.lookup_cons, beq_false_of_ne h, h]

theorem get?_put_self (entries : Entries α) (key : String) (value : α) :
    get? (put entries key value) key = some value := by
  induction entries with
  | nil => simp [put, get?_cons]
  | cons entry rest ih =>
    obtain ⟨k, v⟩ := entry
    by_cases h : k = key
    · simp [put, h, get?_cons]
    · have h' : key ≠ k := fun e => h e.symm
      simp [put, h, get?_cons, h', ih]

theorem get?_put_of_ne (entries : Entries α) {key other : String} (value : α) (h : other ≠ key) :
    get? (put entries key value) other = get? entries other := by
  induction entries with
  | nil => simp [put, get?_cons, h]
  | cons entry rest ih =>
    obtain ⟨k, v⟩ := entry
    by_cases hk : k = key
    · subst hk
      simp [put, get?_cons, h]
    · simp [put, hk, get?_cons, ih]

theorem keys_put (entries : Entries α) (key : String) (value : α) :
    keys (put entries key value) =
      if key ∈ keys entries then keys entries else keys entries ++ [key] := by
  induction entries with
  | nil => simp [put, keys]
  | cons entry rest ih =>
    obtain ⟨k, v⟩ := entry
    by_cases h : k = key
    · simp [put, h, keys]
    · have h' : key ≠ k := fun e => h e.symm
      simp only [keys] at ih
      by_cases hm : key ∈ rest.map Prod.fst
      · simp [put, h, keys, ih, hm]
      · simp [put, h, h', keys, ih, hm]

/-! ### What a lookup finds -/

theorem mem_of_get? {entries : Entries α} {key : String} {value : α}
    (h : entries.get? key = some value) : (key, value) ∈ entries := by
  induction entries with
  | nil => simp at h
  | cons entry rest ih =>
    obtain ⟨k, v⟩ := entry
    rw [get?_cons] at h
    by_cases same : key = k
    · simp_all
    · rw [if_neg same] at h
      exact List.mem_cons_of_mem _ (ih h)

theorem get?_of_mem {entries : Entries α} (keys : entries.keys.Nodup) {entry : String × α}
    (h : entry ∈ entries) : entries.get? entry.1 = some entry.2 := by
  induction entries with
  | nil => simp at h
  | cons first rest ih =>
    obtain ⟨k, v⟩ := first
    obtain ⟨fresh, keys⟩ := List.nodup_cons.1 keys
    rw [get?_cons]
    rcases List.mem_cons.1 h with rfl | later
    · rw [if_pos rfl]
    · have present : entry.1 ∈ rest.map Prod.fst := List.mem_map_of_mem later
      have other : entry.1 ≠ k := fun same => fresh (same ▸ present)
      rw [if_neg other, ih keys later]

theorem get?_of_mem_keys {entries : Entries α} {key : String} (h : key ∈ entries.keys) :
    ∃ value, entries.get? key = some value := by
  induction entries with
  | nil => simp [keys] at h
  | cons first rest ih =>
    obtain ⟨k, v⟩ := first
    rw [get?_cons]
    by_cases same : key = k
    · exact ⟨v, if_pos same⟩
    · rw [if_neg same]
      exact ih (by simpa [keys, same] using h)

/-! ### What a list of pairs leaves -/

theorem nodup_keys_put {entries : Entries α} (h : entries.keys.Nodup) (key : String) (value : α) :
    (entries.put key value).keys.Nodup := by
  rw [keys_put]
  by_cases present : key ∈ entries.keys
  · rwa [if_pos present]
  · rw [if_neg present, List.nodup_append]
    refine ⟨h, by simp, fun a ha b hb same => present ?_⟩
    rwa [← List.mem_singleton.1 hb, ← same]

theorem mem_put {entries : Entries α} {key : String} {value : α} {entry : String × α}
    (h : entry ∈ entries.put key value) : entry ∈ entries ∨ entry = (key, value) := by
  induction entries with
  | nil => exact .inr (by simpa [put] using h)
  | cons first rest ih =>
    obtain ⟨k, v⟩ := first
    rw [put] at h
    by_cases same : k = key
    · rw [if_pos same] at h
      rcases List.mem_cons.1 h with rfl | h
      · exact .inr (by rw [same])
      · exact .inl (List.mem_cons_of_mem _ h)
    · rw [if_neg same] at h
      rcases List.mem_cons.1 h with rfl | h
      · exact .inl (by simp)
      · exact (ih h).imp_left (List.mem_cons_of_mem _)

/-- Writing pairs one after the other leaves some of them, each key once. -/
theorem ofPairs_spec (pairs : List (String × α)) :
    (ofPairs pairs).keys.Nodup ∧ ∀ entry ∈ ofPairs pairs, entry ∈ pairs := by
  have all (entries : Entries α) (h : entries.keys.Nodup) :
      (putAll entries pairs).keys.Nodup ∧
        ∀ entry ∈ putAll entries pairs, entry ∈ entries ∨ entry ∈ pairs := by
    induction pairs generalizing entries with
    | nil => exact ⟨h, fun entry he => .inl he⟩
    | cons pair pairs ih =>
      obtain ⟨nodup, mem⟩ := ih (entries.put pair.1 pair.2) (nodup_keys_put h _ _)
      refine ⟨nodup, fun entry he => ?_⟩
      rcases mem entry he with he | he
      · rcases mem_put he with he | rfl
        · exact .inl he
        · exact .inr (by simp)
      · exact .inr (List.mem_cons_of_mem _ he)
  obtain ⟨nodup, mem⟩ := all [] (by simp [keys])
  exact ⟨nodup, fun entry he => (mem entry he).resolve_left (by simp)⟩

theorem putAll_of_nodup (before entries : Entries α)
    (keys : ((before ++ entries).map Prod.fst).Nodup) :
    putAll before entries = before ++ entries := by
  induction entries generalizing before with
  | nil => simp [putAll]
  | cons entry rest ih =>
    have fresh : entry.1 ∉ before.map Prod.fst := by
      intro h
      rw [List.map_append, List.nodup_append] at keys
      exact keys.2.2 _ h _ (by simp) rfl
    have put : put before entry.1 entry.2 = before ++ [entry] := by
      clear ih keys
      induction before with
      | nil => rfl
      | cons first before ih =>
        simp only [List.map_cons, List.mem_cons, not_or] at fresh
        rw [put, if_neg (Ne.symm fresh.1), ih fresh.2, List.cons_append]
    have step : putAll before (entry :: rest) =
        putAll (before ++ [entry]) rest := by
      rw [← put]
      rfl
    rw [step, ih _ (by simpa using keys), List.append_assoc, List.singleton_append]

theorem ofPairs_of_nodup {entries : Entries α} (keys : (entries.map Prod.fst).Nodup) :
    ofPairs entries = entries := putAll_of_nodup [] entries (by simpa using keys)

/-- What is under a key is the last value that was written there. -/
theorem get?_ofPairs (pairs : List (String × α)) (key : String) :
    (ofPairs pairs).get? key =
      ((pairs.filter fun pair => pair.1 == key).getLast?).map Prod.snd := by
  have all (entries : Entries α) : (putAll entries pairs).get? key =
      (((pairs.filter fun pair => pair.1 == key).getLast?).map Prod.snd).or (entries.get? key) := by
    induction pairs generalizing entries with
    | nil => rfl
    | cons pair pairs ih =>
      have step : putAll entries (pair :: pairs) = putAll (entries.put pair.1 pair.2) pairs := rfl
      rw [step, ih]
      by_cases same : pair.1 = key
      · subst same
        rw [get?_put_self, List.filter_cons_of_pos (by simp), List.getLast?_cons]
        cases (pairs.filter fun p => p.1 == pair.1).getLast? <;> rfl
      · rw [get?_put_of_ne _ _ (Ne.symm same), List.filter_cons_of_neg (by simpa using same)]
  rw [ofPairs, all, get?_nil, Option.or_none]

theorem mem_keys_iff {entries : Entries α} {key : String} :
    key ∈ entries.keys ↔ ∃ value, entries.get? key = some value :=
  ⟨get?_of_mem_keys, fun ⟨_, h⟩ => List.mem_map_of_mem (mem_of_get? h)⟩

theorem mem_keys_ofPairs {pairs : List (String × α)} {key : String} :
    key ∈ (ofPairs pairs).keys ↔ key ∈ pairs.map Prod.fst := by
  rw [mem_keys_iff, get?_ofPairs]
  constructor
  · rintro ⟨value, h⟩
    obtain ⟨pair, last, -⟩ := Option.map_eq_some_iff.1 h
    obtain ⟨mem, same⟩ := List.mem_filter.1 (List.mem_of_getLast? last)
    exact List.mem_map.2 ⟨pair, mem, by simpa using same⟩
  · intro h
    obtain ⟨pair, mem, rfl⟩ := List.mem_map.1 h
    have kept : pair ∈ pairs.filter fun p => p.1 == pair.1 := List.mem_filter.2 ⟨mem, by simp⟩
    cases last : (pairs.filter fun p => p.1 == pair.1).getLast? with
    | none => simp [List.getLast?_eq_none_iff.1 last] at kept
    | some found => exact ⟨found.2, rfl⟩

section Filter

variable {keep : String × α → Bool}

theorem filter_put {entries : Entries α} {key : String} {value : α}
    (agree : ∀ entry ∈ entries, entry.1 = key → keep entry = keep (key, value)) :
    (entries.put key value).filter keep =
      if keep (key, value) then put (entries.filter keep) key value else entries.filter keep := by
  induction entries with
  | nil => rw [put, List.filter_cons]; rfl
  | cons entry rest ih =>
    obtain ⟨k, v⟩ := entry
    have later := ih fun entry h => agree entry (List.mem_cons_of_mem _ h)
    rw [put]
    by_cases same : k = key
    · subst same
      have first := agree (k, v) List.mem_cons_self rfl
      rw [if_pos rfl, List.filter_cons, List.filter_cons, first]
      by_cases kept : keep (k, value) = true <;> simp [kept, put]
    · rw [if_neg same, List.filter_cons, List.filter_cons, later]
      by_cases kept : keep (key, value) = true <;> by_cases first : keep (k, v) = true <;>
        simp [kept, first, put, same]

/-- If pairs with one key are kept together, it does not matter whether they are picked before or
after they are written. -/
theorem ofPairs_filter {pairs : List (String × α)}
    (agree : ∀ p ∈ pairs, ∀ q ∈ pairs, p.1 = q.1 → keep p = keep q) :
    ofPairs (pairs.filter keep) = (ofPairs pairs).filter keep := by
  have all (entries : Entries α)
      (h : ∀ p ∈ entries, ∀ q ∈ pairs, p.1 = q.1 → keep p = keep q) :
      putAll (entries.filter keep) (pairs.filter keep) = (putAll entries pairs).filter keep := by
    induction pairs generalizing entries with
    | nil => rfl
    | cons pair pairs ih =>
      have written : ∀ p ∈ entries.put pair.1 pair.2, ∀ q ∈ pairs, p.1 = q.1 → keep p = keep q := by
        intro p hp q hq same
        rcases mem_put hp with hp | rfl
        · exact h p hp q (List.mem_cons_of_mem _ hq) same
        · exact agree pair List.mem_cons_self q (List.mem_cons_of_mem _ hq) same
      have later := ih (fun p hp q hq => agree p (List.mem_cons_of_mem _ hp) q
        (List.mem_cons_of_mem _ hq)) _ written
      rw [filter_put fun p hp => h p hp pair List.mem_cons_self] at later
      have step : putAll entries (pair :: pairs) = putAll (entries.put pair.1 pair.2) pairs := rfl
      rw [step, ← later, List.filter_cons]
      by_cases kept : keep pair = true
      · rw [if_pos kept, if_pos kept]
        rfl
      · rw [if_neg kept, if_neg kept]
  exact all [] (fun p hp => absurd hp List.not_mem_nil)

end Filter

end Entries

end ElasticPanels
