import ElasticPanels.Http.Reference
import ElasticPanels.Proofs.NumberText
import ElasticPanels.Proofs.Outcomes
import ElasticPanels.Proofs.StringText

/-!
# Addresses are ASCII

An address in normal form is written in ASCII (`Url.IsAscii.text`): scheme and port are of letters
and digits, and the other components are percent-encoded, all but the host, which is ASCII if it was
given so.  What is read from an ASCII text is such an address (`Url.isAscii_of_parse`), and so is
the one that a redirection to it leads to (`Url.IsAscii.redirect`).
-/

namespace ElasticPanels

namespace Text

/-- All characters of the text are in ASCII. -/
def IsAscii (cs : List Char) : Prop := ∀ c ∈ cs, c.toNat < 128

instance : DecidablePred IsAscii :=
  fun cs => inferInstanceAs (Decidable (∀ c ∈ cs, c.toNat < 128))

section

variable {cs ds : List Char}

theorem IsAscii.subset (h : IsAscii cs) (sub : ds ⊆ cs) : IsAscii ds := fun c hc => h c (sub hc)

theorem isAscii_append : IsAscii (cs ++ ds) ↔ IsAscii cs ∧ IsAscii ds := List.forall_mem_append

theorem isAscii_cons {c : Char} : IsAscii (c :: cs) ↔ c.toNat < 128 ∧ IsAscii cs :=
  List.forall_mem_cons

theorem isAscii_nil : IsAscii [] := by simp [IsAscii]

theorem isAscii_ofList : IsAscii (String.ofList cs).toList ↔ IsAscii cs := by
  rw [String.toList_ofList]

theorem isAscii_toList_append {s t : String} :
    IsAscii (s ++ t).toList ↔ IsAscii s.toList ∧ IsAscii t.toList := by
  rw [String.toList_append, isAscii_append]

theorem IsAscii.map_toLower (h : IsAscii cs) : IsAscii (cs.map Char.toLower) := by
  refine List.forall_mem_map.2 fun c hc => ?_
  exact Json.forall_ascii (P := fun c => c.toLower.toNat < 128) (by decide) (h c hc)

theorem isAscii_intercalate {separator : List Char} (between : IsAscii separator)
    {parts : List (List Char)} (each : ∀ part ∈ parts, IsAscii part) :
    IsAscii (separator.intercalate parts) := by
  induction parts with
  | nil => exact isAscii_nil
  | cons part parts ih =>
    rw [List.forall_mem_cons] at each
    cases parts with
    | nil => simpa [List.intercalate] using each.1
    | cons next parts =>
      rw [List.intercalate_cons_cons, isAscii_append, isAscii_append]
      exact ⟨⟨each.1, between⟩, ih each.2⟩

theorem isAscii_of_mem_splitAt (separator : Char) (h : IsAscii cs) :
    ∀ part ∈ splitAt separator cs, IsAscii part := by
  induction cs with
  | nil => simp [splitAt, isAscii_nil]
  | cons c rest ih =>
    obtain ⟨first, others⟩ := isAscii_cons.1 h
    rw [splitAt]
    split_ifs
    · exact List.forall_mem_cons.2 ⟨isAscii_nil, ih others⟩
    · obtain ⟨piece, pieces, cut⟩ := List.exists_cons_of_ne_nil (splitAt_ne_nil separator rest)
      have each := ih others
      rw [cut, List.forall_mem_cons] at each
      rw [cut]
      exact List.forall_mem_cons.2 ⟨isAscii_cons.2 ⟨first, each.1⟩, each.2⟩

theorem isAscii_upTo (stops : List Char) (h : IsAscii cs) :
    IsAscii (upTo stops cs).1 ∧ IsAscii (upTo stops cs).2 := by
  rw [← isAscii_append, upTo_append]
  exact h

theorem isAscii_cut? {separator : Char} {before after : List Char} (h : IsAscii cs)
    (cut : cut? separator cs = some (before, after)) : IsAscii before ∧ IsAscii after := by
  obtain ⟨first, second⟩ := isAscii_upTo [separator] h
  rw [cut?] at cut
  split at cut
  · rename_i c split
    rw [split] at first second
    cases cut
    exact ⟨first, (isAscii_cons.1 second).2⟩
  · cases cut

theorem isAscii_repr (n : ℕ) : IsAscii n.repr.toList := by
  rw [Nat.toList_repr]
  intro c hc
  have digit : c.isDigit = true := Nat.isDigit_of_mem_toDigits (by decide) (by decide) hc
  exact Json.ascii_of_isAlphanum (by simp [Char.isAlphanum, digit])

theorem isAscii_toString (n : ℤ) : IsAscii (toString n).toList := by
  cases n with
  | ofNat n => exact isAscii_repr n
  | negSucc n => exact isAscii_toList_append.2 ⟨by decide, isAscii_repr _⟩

theorem Percent.ascii_hexCapital {n : ℕ} (h : n < 16) : (hexCapital n).toNat < 128 := by
  have all : ∀ n < 16, (hexCapital n).toNat < 128 := by decide
  exact all n h

theorem Percent.isAscii_encode {safe : Char → Bool}
    (ascii : ∀ c, safe c = true → c.toNat < 128) (cs : List Char) :
    IsAscii (encode safe cs) := by
  intro d hd
  obtain ⟨c, -, hd⟩ := List.mem_flatMap.1 hd
  split at hd
  · obtain rfl := List.mem_singleton.1 hd
    exact ascii d ‹_›
  · obtain ⟨b, -, hd⟩ := List.mem_flatMap.1 hd
    have byte := b.toNat_lt
    simp only [escape, List.mem_cons, List.not_mem_nil, or_false] at hd
    obtain rfl | rfl | rfl := hd
    · decide
    · exact ascii_hexCapital (by omega)
    · exact ascii_hexCapital (by omega)

end

end Text

namespace Url

open Text

/-! ## Addresses in normal form -/

/-- All components of the address are in ASCII. -/
structure IsAscii (u : Url) : Prop where
  scheme : Text.IsAscii u.scheme.toList
  userinfo : Text.IsAscii u.userinfo.toList
  host : Text.IsAscii u.host.toList
  path : Text.IsAscii u.path.toList
  query : ∀ query ∈ u.query, Text.IsAscii query.toList
  fragment : ∀ fragment ∈ u.fragment, Text.IsAscii fragment.toList

theorem isAscii_hostText {u : Url} :
    Text.IsAscii u.hostText.toList ↔ Text.IsAscii u.host.toList := by
  rw [hostText]
  split_ifs
  · rw [isAscii_toList_append, isAscii_toList_append]
    exact ⟨fun h => h.1.2, fun h => ⟨⟨by decide, h⟩, by decide⟩⟩
  · rfl

theorem IsAscii.authority {u : Url} (h : u.IsAscii) : Text.IsAscii u.authority.toList := by
  rw [Url.authority, netloc, isAscii_toList_append, isAscii_toList_append]
  refine ⟨?_, isAscii_hostText.2 h.host, ?_⟩
  · split_ifs
    · exact isAscii_nil
    · exact isAscii_toList_append.2 ⟨h.userinfo, by decide⟩
  · cases u.port with
    | none => exact isAscii_nil
    | some port => exact isAscii_toList_append.2 ⟨by decide, isAscii_toString port⟩

theorem isAscii_behind {mark : String} (ascii : Text.IsAscii mark.toList)
    {component : Option String} (h : ∀ text ∈ component, Text.IsAscii text.toList) :
    Text.IsAscii ((component.map (mark ++ ·)).getD "").toList := by
  cases component with
  | none => exact isAscii_nil
  | some text => exact isAscii_toList_append.2 ⟨ascii, h text rfl⟩

/-- The text of an address in ASCII is in ASCII. -/
theorem IsAscii.text {u : Url} (h : u.IsAscii) : Text.IsAscii u.text.toList := by
  simp only [Url.text, isAscii_toList_append]
  refine ⟨⟨⟨⟨?_, ?_⟩, h.path⟩, isAscii_behind (by decide) h.query⟩,
    isAscii_behind (by decide) h.fragment⟩
  · split_ifs
    · exact isAscii_nil
    · exact isAscii_toList_append.2 ⟨h.scheme, by decide⟩
  · split_ifs
    · exact isAscii_nil
    · exact isAscii_toList_append.2 ⟨by decide, h.authority⟩

theorem ascii_of_asciiExcept {excluded : String} {c : Char}
    (h : asciiExcept excluded c = true) : c.toNat < 128 := by
  simp only [asciiExcept, Bool.and_eq_true, decide_eq_true_eq] at h
  exact lt_of_le_of_lt (show c.toNat ≤ '~'.toNat from h.1.2) (by decide)

theorem ascii_of_isHostChar {c : Char} (h : isHostChar c = true) : c.toNat < 128 := by
  rw [isHostChar, Bool.or_eq_true, List.contains_iff_mem] at h
  rcases h with h | h
  · exact Json.ascii_of_isAlphanum h
  · have all : ∀ c ∈ "-._~!$&'()*+,;=\"`\x7b\x7d%|\\".toList, c.toNat < 128 := by decide
    exact all c h

theorem isAscii_of_escaped {safe : Char → Bool} (ascii : ∀ c, safe c = true → c.toNat < 128)
    {cs : List Char} {s : String} (h : escaped safe cs = .ok s) : Text.IsAscii s.toList := by
  rw [escaped] at h
  split at h
  · cases h
  · cases h
    exact isAscii_ofList.2 (Percent.isAscii_encode ascii cs)

theorem isAscii_of_mapM_escaped {safe : Char → Bool} (ascii : ∀ c, safe c = true → c.toNat < 128)
    {component : Option (List Char)} {written : Option String}
    (h : component.mapM (escaped safe) = .ok written) :
    ∀ s ∈ written, Text.IsAscii s.toList := by
  cases component with
  | none =>
    cases h
    simp
  | some cs =>
    obtain ⟨s, hs, h⟩ := Outcome.map_eq_ok.1 (show (escaped safe cs).map some = .ok written from h)
    rintro t ht
    rw [← h] at ht
    cases ht
    exact isAscii_of_escaped ascii hs

theorem isAscii_of_normalHost {host : List Char} (ascii : Text.IsAscii host) {s : String}
    (h : normalHost host = .ok s) : Text.IsAscii s.toList := by
  have all : host.all (·.toNat < 128) = true := by
    simpa [Text.IsAscii] using ascii
  simp only [normalHost, if_pos all] at h
  split_ifs at h
  · cases h
    exact isAscii_ofList.2 ascii
  · cases h
    exact isAscii_ofList.2 (ascii.subset
      (List.Subset.trans (List.dropLast_subset _) (List.drop_subset _ _)))
  · cases h
    exact isAscii_ofList.2 (Percent.isAscii_encode (fun _ => ascii_of_isHostChar) _)

/-- An address in normal form is in ASCII if its scheme and its host are. -/
theorem isAscii_of_normal {p : Parts} {u : Url} (h : p.normal = .ok u)
    (scheme : Text.IsAscii p.scheme) (host : Text.IsAscii u.host.toList) : u.IsAscii := by
  simp only [Parts.normal, Outcome.bind_eq_ok] at h
  obtain ⟨userinfo, user, name, -, port, -, -, -, path, hp, query, hq, fragment, hf, h⟩ := h
  obtain rfl := Outcome.pure_eq_ok.1 h
  have safe {excluded : String} (c : Char) (h : asciiExcept excluded c = true) :=
    ascii_of_asciiExcept h
  exact {
    scheme := isAscii_ofList.2 scheme.map_toLower
    userinfo := isAscii_of_escaped safe user
    host
    path := isAscii_of_escaped safe hp
    query := isAscii_of_mapM_escaped safe hq
    fragment := isAscii_of_mapM_escaped safe hf }

theorem normalHost_of_normal {p : Parts} {u : Url} (h : p.normal = .ok u) :
    normalHost p.host = .ok u.host := by
  simp only [Parts.normal, Outcome.bind_eq_ok] at h
  obtain ⟨userinfo, -, name, given, port, -, -, -, path, -, query, -, fragment, -, h⟩ := h
  obtain rfl := Outcome.pure_eq_ok.1 h
  exact given

/-! ## Reading addresses -/

section

variable {cs : List Char}

theorem isAscii_splitScheme (cs : List Char) : Text.IsAscii (splitScheme cs).1 := by
  have run : Text.IsAscii
      (cs.takeWhile fun c => c.isAlphanum || c == '+' || c == '.' || c == '-') := by
    intro c hc
    have kind := List.mem_takeWhile_imp hc
    simp only [Bool.or_eq_true, beq_iff_eq] at kind
    rcases kind with ((h | rfl) | rfl) | rfl
    · exact Json.ascii_of_isAlphanum h
    all_goals decide
  rw [splitScheme]
  split
  · split_ifs
    · exact run
    · exact isAscii_nil
  · exact isAscii_nil

theorem isAscii_rest_splitScheme (h : Text.IsAscii cs) : Text.IsAscii (splitScheme cs).2 := by
  rw [splitScheme]
  split
  · rename_i rest cut
    split_ifs
    · exact (isAscii_cons.1 (cut ▸ h.subset (List.drop_subset _ _))).2
    · exact h
  · exact h

theorem isAscii_splitUser (h : Text.IsAscii cs) : Text.IsAscii (splitUser cs).2 := by
  rw [splitUser]
  split_ifs
  · intro c hc
    exact h c (List.mem_reverse.1 ((List.takeWhile_sublist _).subset (List.mem_reverse.1 hc)))
  · exact h

theorem isAscii_splitHost (h : Text.IsAscii cs) : Text.IsAscii (splitHost cs).1 := by
  have part (n : ℕ) : Text.IsAscii (cs.take n) := h.subset (List.take_subset _ _)
  rw [splitHost]
  split <;> exact part _

theorem isAscii_host_ofText (h : Text.IsAscii cs) : Text.IsAscii (Parts.ofText cs).host := by
  have rest := isAscii_rest_splitScheme h
  simp only [Parts.ofText]
  refine isAscii_splitHost (isAscii_splitUser ?_)
  split
  · rename_i after cut
    rw [cut, isAscii_cons, isAscii_cons] at rest
    exact (isAscii_upTo _ rest.2.2).1
  · exact isAscii_nil

theorem isAscii_of_parts {p : Parts} {u : Url} (h : p.url = .ok u)
    (scheme : Text.IsAscii p.scheme) (host : Text.IsAscii p.host) : u.IsAscii := by
  simp only [Parts.url, Outcome.bind_eq_ok] at h
  obtain ⟨-, -, -, -, -, -, h⟩ := h
  exact isAscii_of_normal h scheme (isAscii_of_normalHost host (normalHost_of_normal h))

/-- An address that is read has all but its host in ASCII. -/
theorem isAscii_of_parse_of_host {s : String} {u : Url} (h : parse s = .ok u)
    (host : Text.IsAscii u.host.toList) : u.IsAscii := by
  obtain ⟨-, -, h⟩ := Outcome.bind_eq_ok.1 h
  refine isAscii_of_normal h ?_ host
  exact isAscii_splitScheme _

/-- An address that is read from an ASCII text is in ASCII. -/
theorem isAscii_of_parse {s : String} {u : Url} (h : parse s = .ok u)
    (ascii : Text.IsAscii s.toList) : u.IsAscii := by
  refine isAscii_of_parse_of_host h ?_
  obtain ⟨-, -, h⟩ := Outcome.bind_eq_ok.1 h
  exact isAscii_of_normalHost (isAscii_host_ofText ascii) (normalHost_of_normal h)

end

/-! ## Redirections -/

/-- All components of the reference are in ASCII. -/
structure Reference.IsAscii (r : Reference) : Prop where
  scheme : Text.IsAscii r.scheme.toList
  authority : Text.IsAscii r.authority
  path : Text.IsAscii r.path
  query : Text.IsAscii r.query
  fragment : Text.IsAscii r.fragment

section

variable {cs ds : List Char}

theorem isAscii_ofText {s : String} (h : Text.IsAscii s.toList) : (Reference.ofText s).IsAscii := by
  have rest := isAscii_rest_splitScheme h
  obtain ⟨before, fragment⟩ := isAscii_upTo ['#'] rest
  obtain ⟨before, query⟩ := isAscii_upTo ['?'] before
  have located : Text.IsAscii (Reference.ofText s).authority ∧
      Text.IsAscii (Reference.ofText s).path := by
    simp only [Reference.ofText]
    split
    · rename_i after cut
      rw [cut, isAscii_cons, isAscii_cons] at before
      exact isAscii_upTo _ before.2.2
    · exact ⟨isAscii_nil, before⟩
  exact {
    scheme := isAscii_ofList.2 (isAscii_splitScheme _).map_toLower
    authority := located.1
    path := located.2
    query := query.subset (List.drop_subset _ _)
    fragment := fragment.subset (List.drop_subset _ _) }

theorem isAscii_marked {mark : Char} (ascii : mark.toNat < 128) (h : Text.IsAscii cs) :
    Text.IsAscii (if cs.isEmpty then [] else mark :: cs) := by
  split_ifs
  · exact isAscii_nil
  · exact isAscii_cons.2 ⟨ascii, h⟩

theorem Reference.IsAscii.text {r : Reference} (h : r.IsAscii) : Text.IsAscii r.text.toList := by
  have path : Text.IsAscii
      (if r.path.isEmpty || r.path.head? = some '/' then r.path else '/' :: r.path) := by
    split_ifs
    · exact h.path
    · exact isAscii_cons.2 ⟨by decide, h.path⟩
  have query := isAscii_marked (show '?'.toNat < 128 by decide) h.query
  have fragment := isAscii_marked (show '#'.toNat < 128 by decide) h.fragment
  simp only [Reference.text, isAscii_toList_append, isAscii_ofList, isAscii_append]
  exact ⟨⟨h.scheme, by decide⟩, ⟨⟨h.authority, path⟩, query⟩, fragment⟩

theorem isAscii_splitParameters (scheme : String) (h : Text.IsAscii cs) :
    Text.IsAscii (splitParameters scheme cs).1 ∧ Text.IsAscii (splitParameters scheme cs).2 := by
  have last : Text.IsAscii (cs.reverse.takeWhile (· ≠ '/')).reverse := fun c hc =>
    h c (List.mem_reverse.1 ((List.takeWhile_sublist _).subset (List.mem_reverse.1 hc)))
  rw [splitParameters]
  split
  · rename_i name parameters cut
    split_ifs at cut
    obtain ⟨hn, hp⟩ := isAscii_cut? last cut
    exact ⟨isAscii_append.2 ⟨h.subset (List.take_subset _ _), hn⟩, hp⟩
  · exact ⟨h, isAscii_nil⟩

theorem isAscii_withParameters (path : Text.IsAscii cs) (parameters : Text.IsAscii ds) :
    Text.IsAscii (withParameters cs ds) := by
  rw [withParameters]
  split_ifs
  · exact path
  · exact isAscii_append.2 ⟨path, isAscii_cons.2 ⟨by decide, parameters⟩⟩

theorem isAscii_joinedSegments (base : Text.IsAscii cs) (reference : Text.IsAscii ds) :
    ∀ segment ∈ joinedSegments cs ds, Text.IsAscii segment := by
  have before := isAscii_of_mem_splitAt '/' base
  have parts := isAscii_of_mem_splitAt '/' reference
  unfold joinedSegments
  split
  · exact parts
  · set directory := if (splitAt '/' cs).getLast? = some [] then splitAt '/' cs
      else (splitAt '/' cs).dropLast with directory_eq
    have all : ∀ segment ∈ directory ++ splitAt '/' ds, Text.IsAscii segment := by
      refine List.forall_mem_append.2 ⟨?_, parts⟩
      rw [directory_eq]
      split_ifs
      · exact before
      · exact fun segment h => before segment (List.dropLast_subset _ h)
    intro segment hs
    simp only [List.mem_append, Option.mem_toList] at hs
    rcases hs with (hs | hs) | hs
    · exact all segment (List.take_subset _ _ hs)
    · exact all segment (List.drop_subset _ _ (List.dropLast_subset _ (List.mem_filter.1 hs).1))
    · exact all segment (List.drop_subset _ _ (List.mem_of_getLast? hs))

theorem isAscii_walked {segments : List (List Char)}
    (each : ∀ segment ∈ segments, Text.IsAscii segment) {done : List (List Char)}
    (before : ∀ segment ∈ done, Text.IsAscii segment) :
    ∀ segment ∈ segments.foldl (fun done segment =>
      if segment = ['.', '.'] then done.dropLast
      else if segment = ['.'] then done
      else done ++ [segment]) done, Text.IsAscii segment := by
  induction segments generalizing done with
  | nil => exact before
  | cons segment segments ih =>
    rw [List.forall_mem_cons] at each
    refine ih each.2 ?_
    dsimp only
    split_ifs
    · exact fun segment h => before segment (List.dropLast_subset _ h)
    · exact before
    · exact List.forall_mem_append.2 ⟨before, by simpa using each.1⟩

theorem isAscii_joinPath (base : Text.IsAscii cs) (reference : Text.IsAscii ds) :
    Text.IsAscii (joinPath cs ds) := by
  have walked := isAscii_walked (isAscii_joinedSegments base reference)
    (List.forall_mem_nil Text.IsAscii)
  have rooted {path : List Char} (h : Text.IsAscii path) :
      Text.IsAscii (if path.head? = some '/' then path else '/' :: path) := by
    split_ifs
    · exact h
    · exact isAscii_cons.2 ⟨by decide, h⟩
  refine rooted (isAscii_intercalate (by decide) ?_)
  split_ifs
  · exact List.forall_mem_append.2 ⟨walked, by simp [isAscii_nil]⟩
  · exact walked

theorem Reference.IsAscii.resolve {base reference : Reference} (hb : base.IsAscii)
    (hr : reference.IsAscii) : (base.resolve reference).IsAscii := by
  obtain ⟨path, parameters⟩ := isAscii_splitParameters base.scheme hr.path
  obtain ⟨directory, own⟩ := isAscii_splitParameters base.scheme hb.path
  simp only [Reference.resolve]
  split_ifs
  · exact ⟨hb.scheme, hr.authority, isAscii_withParameters path parameters, hr.query, hr.fragment⟩
  · exact ⟨hb.scheme, hb.authority, isAscii_withParameters directory own, hb.query, hr.fragment⟩
  · exact ⟨hb.scheme, hb.authority, isAscii_withParameters directory own, hr.query, hr.fragment⟩
  · exact ⟨hb.scheme, hb.authority,
      isAscii_withParameters (isAscii_joinPath directory path) parameters, hr.query, hr.fragment⟩

theorem isAscii_joined {base reference : String} (hb : Text.IsAscii base.toList)
    (hr : Text.IsAscii reference.toList) : Text.IsAscii (joined base reference).toList := by
  simp only [joined]
  split_ifs
  · exact hb
  · exact hr
  · exact hr
  · exact ((isAscii_ofText hb).resolve (isAscii_ofText hr)).text

/-- A redirection from an address in ASCII to one leads to one. -/
theorem IsAscii.redirect {origin location u : Url} (ho : origin.IsAscii) (hl : location.IsAscii)
    (h : origin.redirect location = .ok u) : u.IsAscii := by
  let marked (v : Url) : Except Flaw Url :=
    if isBlank v.fragment && !isBlank origin.fragment then
      Parts.url { v.toParts with
        fragment := some (Percent.decode (origin.fragment.getD "").toList) }
    else pure v
  have of_marked {v : Url} (hv : v.IsAscii) (h : marked v = .ok u) : u.IsAscii := by
    simp only [marked] at h
    split_ifs at h
    · exact isAscii_of_parts h hv.scheme (isAscii_hostText.2 hv.host)
    · obtain rfl := Outcome.pure_eq_ok.1 h
      exact hv
  have of_hosted {v : Url} (hv : v.IsAscii)
      (h : (if v.isAbsolute then marked v else origin.join v >>= marked) = .ok u) : u.IsAscii := by
    split_ifs at h
    · exact of_marked hv h
    · obtain ⟨w, joined, h⟩ := Outcome.bind_eq_ok.1 h
      exact of_marked (isAscii_of_parse joined (isAscii_joined ho.text hv.text)) h
  simp only [Url.redirect, pure_bind] at h
  split at h
  · obtain ⟨hosted, first, h⟩ := Outcome.bind_eq_ok.1 h
    exact of_hosted (isAscii_of_parts first hl.scheme (isAscii_hostText.2 ho.host)) h
  · exact of_hosted hl h

end

end Url

end ElasticPanels
