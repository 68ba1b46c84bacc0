import ElasticPanels.Proofs.HiddenQueries
import ElasticPanels.Proofs.Operations
import ElasticPanels.Proofs.Redirections

/-!
# Batches that cannot be built

The searches of a batch are built in order, before anything is counted or sent.  The first query
whose search cannot be built ends the batch, which then leaves the journal as it was.  Otherwise the
batch is counted, and its payload is posted in one exchange, however that ends (`PostsOnce`).  Both
are in `unbuilt_or_posted`.
-/

namespace ElasticPanels

open Search Session Telemetry
open Datasource (someDatasource latest noHits)

/-! ## The first failure -/

/-- Of some steps that do not all succeed, the first that fails ends all of them. -/
theorem Outcome.exists_first_error {α β : Type} {f : α → Outcome β} {as : List α}
    (h : ∃ a ∈ as, ∃ fault, f a = .error fault) :
    ∃ before a after fault, as = before ++ a :: after ∧ (∀ b ∈ before, ∃ c, f b = .ok c) ∧
      f a = .error fault ∧ as.mapM f = .error fault := by
  induction as with
  | nil =>
    obtain ⟨a, mem, -⟩ := h
    cases mem
  | cons first rest ih =>
    rw [List.mapM_cons]
    cases here : f first with
    | error fault => exact ⟨[], first, rest, fault, rfl, by simp, here, rfl⟩
    | ok c =>
      have later : ∃ a ∈ rest, ∃ fault, f a = .error fault := by
        obtain ⟨a, mem, fault, failed⟩ := h
        rcases List.mem_cons.1 mem with rfl | mem
        · rw [here] at failed
          cases failed
        · exact ⟨a, mem, fault, failed⟩
      obtain ⟨before, a, after, fault, rfl, built, failed, ended⟩ := ih later
      refine ⟨first :: before, a, after, fault, rfl, ?_, failed, ?_⟩
      · exact List.forall_mem_cons.2 ⟨⟨c, here⟩, built⟩
      · rw [ended]
        rfl

section Built

variable {filters : List AdhocFilter} {vars : Template.Variables} {q : PanelQuery}
  {settings : Settings}

theorem entry_eq_error {fault : Fault} : entry settings filters vars q = .error fault ↔
    q.body filters (expandedText vars q) = .error fault := by
  rw [entry, Outcome.bind_eq_error]
  constructor
  · rintro (failed | ⟨body, -, made⟩)
    · exact failed
    · cases made
  · exact .inl

/-- Where a query cannot be built, the first such query keeps the payload from being built. -/
theorem payload_unbuilt (settings : Settings) {queries : List PanelQuery}
    (h : ∃ q ∈ queries, ∃ fault, q.body filters (expandedText vars q) = .error fault) :
    ∃ before q after fault, queries = before ++ q :: after ∧
      (∀ p ∈ before, ∃ body, p.body filters (expandedText vars p) = .ok body) ∧
      q.body filters (expandedText vars q) = .error fault ∧
      payload settings filters vars queries = .error fault := by
  have failing : ∃ q ∈ queries, ∃ fault, entry settings filters vars q = .error fault := by
    obtain ⟨q, mem, fault, failed⟩ := h
    exact ⟨q, mem, fault, entry_eq_error.2 failed⟩
  obtain ⟨before, q, after, fault, split, built, failed, ended⟩ :=
    Outcome.exists_first_error failing
  refine ⟨before, q, after, fault, split, fun p hp => ?_, entry_eq_error.1 failed, ?_⟩
  · obtain ⟨e, made⟩ := built p hp
    obtain ⟨body, hb, -⟩ := body_of_entry made
    exact ⟨body, hb⟩
  · rw [payload, ended]
    rfl

end Built

/-! ## What is posted -/

/-- The batch of `n` queries posts `text` in one exchange.  It is counted, and so is the one search,
which may fail.  The request for it is sent first, if it can be made, and others follow only from
redirections. -/
structure PostsOnce (d : Datasource) (n : ℕ) (text : String) (before after : Journal) : Prop where
  counted : ∃ reason : Option FailureReason, after.events =
    before.events ++ .batch n :: .search .query :: reason.toList.map (.failure .query)
  sent : ∀ url, d.connection.CanPost multiSearchPath text before.jar url →
    ∃ more, after.sent = before.sent ++ d.connection.post text before.jar url :: more ∧
      Trail before.pending (d.connection.post text before.jar url) more ∧
      ((∀ reaction ∈ before.pending.head?, reaction.IsFinal) → more = [])
  unsent : (∀ url, ¬ d.connection.CanPost multiSearchPath text before.jar url) →
    after.sent = before.sent

section Posting

variable {d : Datasource} {queries : List PanelQuery} {filters : List AdhocFilter}
  {vars : Template.Variables} {text : String}

/-- What a batch does once its payload is known: it is counted, and there is one attempt. -/
theorem adds_of_sentText (any : visibleQueries queries ≠ [])
    (sent : sentText d.settings filters vars (visibleQueries queries) = .ok text) (j : Journal) :
    let a := d.connection.attempt ⟨.query, multiSearchPath, text⟩ j
    j.Adds a.sent (.batch (visibleQueries queries).length :: a.events)
      ((d.runBatch queries filters vars).run.run j).2 := by
  have shown : (visibleQueries queries).isEmpty = false := List.isEmpty_eq_false_iff.2 any
  have posting : (Operation.batch queries filters vars).posting? d =
      some ⟨.query, multiSearchPath, text⟩ := by
    simp only [Operation.posting?, shown, sent]
    rfl
  have added : (Operation.batch queries filters vars).Adds d j := Operation.adds _
  rw [Operation.Adds, Operation.attempt?, posting] at added
  obtain ⟨_, rfl, adds⟩ := added
  exact adds

theorem postsOnce_of_sentText (any : visibleQueries queries ≠ [])
    (sent : sentText d.settings filters vars (visibleQueries queries) = .ok text) (j : Journal) :
    PostsOnce d (visibleQueries queries).length text j
      ((d.runBatch queries filters vars).run.run j).2 := by
  have adds := adds_of_sentText any sent j
  obtain ⟨posts, withheld⟩ := d.connection.sent_exchange multiSearchPath text j.fresh
  constructor
  · exact ⟨_, adds.events⟩
  · intro url can
    obtain ⟨more, sent, trail⟩ := posts url can
    refine ⟨more, ?_, trail, trail.eq_nil⟩
    rw [← List.nil_append (_ :: more)]
    exact adds.sent.trans (congrArg (j.sent ++ ·) sent)
  · intro cannot
    have none := withheld cannot
    exact (adds.sent.trans (congrArg (j.sent ++ ·) none)).trans (List.append_nil _)

end Posting

/-- A batch of which a visible query cannot be built ends with the fault of the first such query,
and it sends, counts and notes nothing.  If there are visible queries and all of them can be built,
their payload is posted once, whatever comes of it. -/
theorem unbuilt_or_posted (d : Datasource) (filters : List AdhocFilter)
    (vars : Template.Variables) (queries : List PanelQuery) :
    ((∃ q ∈ visibleQueries queries, ∃ fault, q.body filters (expandedText vars q) = .error fault) →
      ∃ before q after fault, visibleQueries queries = before ++ q :: after ∧
        (∀ p ∈ before, ∃ body, p.body filters (expandedText vars p) = .ok body) ∧
        q.body filters (expandedText vars q) = .error fault ∧
        ∀ j, (d.runBatch queries filters vars).run.run j = (.error fault, j)) ∧
    (visibleQueries queries ≠ [] →
      (∀ q ∈ visibleQueries queries, ∃ body, q.body filters (expandedText vars q) = .ok body) →
      ∃ text, sentText d.settings filters vars (visibleQueries queries) = .ok text ∧
        ∀ j, PostsOnce d (visibleQueries queries).length text j
          ((d.runBatch queries filters vars).run.run j).2) := by
  constructor
  · intro failing
    obtain ⟨before, q, after, fault, split, built, failed, unbuilt⟩ :=
      payload_unbuilt d.settings failing
    have any : visibleQueries queries ≠ [] := by simp [split]
    exact ⟨before, q, after, fault, split, built, failed, d.run_unbuilt any unbuilt⟩
  · intro any built
    obtain ⟨entries, made⟩ := mapM_entry d.settings built
    have sent := sentText_of_entries made
    exact ⟨_, sent, postsOnce_of_sentText any sent⟩

/-- A query by terms that does not say how many in numbers. -/
def manyTerms : PanelQuery :=
  ⟨"C", none, false, none, none, "@timestamp", [.default],
    [⟨"2", .terms, some "host", [("size", .str "many")]⟩]⟩

theorem latest_built : ∃ body, latest.body [] (expandedText [] latest) = .ok body := ⟨_, rfl⟩

/-- The second query of a batch cannot be built, so nothing is done for the first one either. -/
theorem manyTerms_unbuilt : ∃ fault,
    (∃ q ∈ visibleQueries [latest, manyTerms], ∃ fault,
      q.body [] (expandedText [] q) = .error fault) ∧
    manyTerms.body [] (expandedText [] manyTerms) = .error fault ∧
      ∀ j, (someDatasource.runBatch [latest, manyTerms] [] []).run.run j = (.error fault, j) := by
  have visible : visibleQueries [latest, manyTerms] = [latest, manyTerms] := by
    simp [visibleQueries, latest, manyTerms]
  have failing : ∃ q ∈ visibleQueries [latest, manyTerms], ∃ fault,
      q.body [] (expandedText [] q) = .error fault := by
    rw [visible]
    exact ⟨manyTerms, by simp, _, rfl⟩
  obtain ⟨before, q, after, fault, split, -, failed, run⟩ :=
    (unbuilt_or_posted someDatasource [] [] [latest, manyTerms]).1 failing
  have mem : q ∈ [latest, manyTerms] := by
    rw [← visible, split]
    simp
  have other : q ≠ latest := by
    rintro rfl
    obtain ⟨body, built⟩ := latest_built
    rw [built] at failed
    cases failed
  obtain rfl : q = manyTerms := by simpa [other] using mem
  exact ⟨fault, failing, failed, run⟩

/-- A reply that leads to another path. -/
def movedReply : Http.Reply := ⟨307, [("location", "/elsewhere")], ""⟩

/-- A session in which the first request is redirected. -/
def redirecting : Journal :=
  ⟨0, [.reply movedReply, .reply ⟨200, [], noHits.spacedText⟩], [], [], [], .empty⟩

/-- The address of multi-searches. -/
def searchUrl : Url := ⟨"http", "", "es", some 9200, "/_msearch", none, none⟩

/-- The address that the reply leads to. -/
def elsewhereUrl : Url := ⟨"http", "", "es", some 9200, "/elsewhere", none, none⟩

theorem locate_elsewhere : locate searchUrl "/elsewhere" = ofOutcome (.ok elsewhereUrl) := by
  have read : Url.parse "/elsewhere" = .ok ⟨"", "", "", none, "/elsewhere", none, none⟩ := by
    with_unfolding_all rfl
  have led : searchUrl.redirect ⟨"", "", "", none, "/elsewhere", none, none⟩ =
      .ok elsewhereUrl := by
    with_unfolding_all rfl
  rw [locate, read]
  dsimp only
  rw [led]
  rfl

/-- Two requests are made for a text that is redirected once. -/
theorem sent_redirecting {text : String}
    (sendable : Text.Encoding.utf8.require text = .ok ()) : ∃ first second,
    ((someDatasource.connection.exchange "POST" multiSearchPath (.lines text)).run.run
      redirecting).2.sent = [first, second] := by
  have target : someDatasource.connection.target multiSearchPath = .ok searchUrl := by
    with_unfolding_all rfl
  have can : someDatasource.connection.CanPost multiSearchPath text redirecting.jar searchUrl :=
    ⟨sendable, target, by with_unfolding_all rfl, .inl rfl⟩
  have received : (Reaction.reply movedReply).received = .ok movedReply := by
    with_unfolding_all rfl
  have led : redirection? movedReply = some "/elsewhere" := by decide +kernel
  have clean : (redirecting.jar.receive redirecting.now searchUrl movedReply).isEmpty = true := by
    with_unfolding_all rfl
  let first := someDatasource.connection.post text redirecting.jar searchUrl
  have scheme : first.url.scheme.isEmpty = false := rfl
  have pending : redirecting.pending =
    [.reply movedReply, .reply ⟨200, [], noHits.spacedText⟩] := rfl
  obtain ⟨more, sent, trail⟩ :=
    sent_follow_of_redirection 19 pending received scheme led locate_elsewhere clean
  obtain rfl : more = [] := trail.eq_nil fun reaction next => by
    cases next
    exact Reaction.isFinal_plain rfl _
  refine ⟨first, Http.redirected first 307 elsewhereUrl none, ?_⟩
  rw [Connection.exchange, run_bind_of_ok (Connection.run_prepare_post can)]
  exact sent

/-- A batch whose queries can all be built sends two requests where the first is redirected. -/
theorem latest_redirected : visibleQueries [latest] = [latest] ∧
    (∃ body, latest.body [] (expandedText [] latest) = .ok body) ∧
    ∃ first second,
      ((someDatasource.runBatch [latest] [] []).run.run redirecting).2.sent = [first, second] := by
  have visible : visibleQueries [latest] = [latest] := visibleQueries_single rfl
  obtain ⟨entries, made⟩ := mapM_entry someDatasource.settings
    (List.forall_mem_singleton.2 latest_built)
  obtain ⟨text, sent, sendable⟩ : ∃ text,
      sentText someDatasource.settings [] [] (visibleQueries [latest]) = .ok text ∧
        Text.Encoding.utf8.require text = .ok () := by
    refine ⟨resolved [] (write entries), ?_, ?_⟩
    · rw [visible]
      exact sentText_of_entries made
    · exact require_resolved (by simp [Template.Variables.inserted, Template.Variables.knows])
  obtain ⟨first, second, both⟩ := sent_redirecting sendable
  refine ⟨visible, latest_built, first, second, ?_⟩
  have adds := adds_of_sentText (by simp [visible]) sent redirecting
  have fresh : redirecting.fresh = redirecting := rfl
  rw [adds.sent]
  simp only [Connection.attempt, fresh, both]
  rfl

end ElasticPanels
