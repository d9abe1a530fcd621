import Gazetteer.Proofs.Repository.Reply
import Gazetteer.Proofs.Sparql.Results

/-!
# Proofs/Repository/Server — what a query to a server comes to

Whatever the network and the server do, a query over an open connection ends with rows or with a
fault, and `Settles` sorts the ways it may end: rows for a table of results, a malformed query for
the status 400, and a failed query for everything else but one. The content of an answer is not
checked, and JSON that is no table of results ends the query with the flaw in its shape, which is
no failed query (`evaluate_settles`).
-/

namespace Gazetteer

namespace Response

/-- The table of results in an answer of success. -/
def HasTable (r : Response) (rows : List Row) : Prop :=
  r.isOk = true ∧ ∃ document, r.json = .ok document ∧ Sparql.IsTable document rows

/-- Whether an answer of success has JSON that is no table of results. -/
def IsStray (r : Response) : Prop :=
  r.isOk = true ∧ ∃ document, r.json = .ok document ∧ ¬ ∃ rows, Sparql.IsTable document rows

theorem status_ne_of_isOk {r : Response} (h : r.isOk = true) : r.status ≠ 400 := by
  intro hstatus
  simp [isOk, hstatus] at h

end Response

/-- How a query ends that has been sent to a server. -/
structure Settles (sent : Except Fault Response) (result : Except Fault Rows) : Prop where
  /-- There are rows just for a table: all rows of the table, and no others. -/
  rows_iff : ∀ rows, result = .ok rows ↔
    rows.failure = none ∧ ∃ r, sent = .ok r ∧ r.HasTable rows.rows
  /-- There is one row for each binding, which has just the columns if these are all different. -/
  columns : ∀ rows r document columns bindings, result = .ok rows → sent = .ok r →
    r.json = .ok document → Sparql.Declares document columns bindings →
    rows.rows.length = bindings.length ∧ ∀ names, columns.items = .ok names →
      (names.Pairwise fun a b => (a == b) = false) → ∀ row ∈ rows.rows, row.map (·.1) = names
  malformed_iff : (∃ fault, result = .error fault ∧ fault.kind = .malformedQuery) ↔
    ∃ r, sent = .ok r ∧ r.status = 400
  stray_iff : (∃ fault, result = .error fault ∧ fault.isQuery = false) ↔
    ∃ r, sent = .ok r ∧ r.IsStray
  flaw : ∀ fault, result = .error fault → fault.isQuery = false → ∃ flaw, fault = .shape flaw

section Settles

variable {sent : Except Fault Response} {fault : Fault} {r : Response}

/-- **A query that ends with a fault** settles if it is a fault of the right kind. -/
theorem settles_error (hnone : ¬ ∃ r rows, sent = .ok r ∧ r.HasTable rows)
    (hmalformed : fault.kind = .malformedQuery ↔ ∃ r, sent = .ok r ∧ r.status = 400)
    (hstray : fault.isQuery = false ↔ ∃ r, sent = .ok r ∧ r.IsStray)
    (hflaw : fault.isQuery = false → ∃ flaw, fault = .shape flaw) :
    Settles sent (.error fault) where
  rows_iff rows := ⟨fun h => absurd h (by simp),
    fun ⟨_, r, hr, htable⟩ => absurd ⟨r, rows.rows, hr, htable⟩ hnone⟩
  columns _ _ _ _ _ h := absurd h (by simp)
  malformed_iff := ⟨fun ⟨_, h, hkind⟩ => hmalformed.mp (Except.error.inj h ▸ hkind),
    fun h => ⟨fault, rfl, hmalformed.mpr h⟩⟩
  stray_iff := ⟨fun ⟨_, h, hquery⟩ => hstray.mp (Except.error.inj h ▸ hquery),
    fun h => ⟨fault, rfl, hstray.mpr h⟩⟩
  flaw _ h hquery := by
    obtain rfl := Except.error.inj h
    exact hflaw hquery

/-- A query that fails without an answer in JSON, and is not rejected. -/
theorem settles_failed (hfault : fault.kind = .query)
    (hsent : ∀ r, sent = .ok r → r.status ≠ 400 ∧
      (r.isOk = true → ∀ document, r.json ≠ .ok document)) : Settles sent (.error fault) := by
  have hquery : fault.isQuery = true := by rw [Fault.isQuery, hfault]; rfl
  refine settles_error ?_ ?_ ?_ fun h => absurd (hquery.symm.trans h) (by simp)
  · rintro ⟨r, rows, hr, hok, document, hjson, -⟩
    exact (hsent r hr).2 hok document hjson
  · refine iff_of_false (by rw [hfault]; decide) ?_
    rintro ⟨r, hr, hstatus⟩
    exact (hsent r hr).1 hstatus
  · refine iff_of_false (by rw [hquery]; decide) ?_
    rintro ⟨r, hr, hok, document, hjson, -⟩
    exact (hsent r hr).2 hok document hjson

/-- A query that the server rejects. -/
theorem settles_rejected (hstatus : r.status = 400) (body : String) :
    Settles (.ok r) (.error (.queryRejected body)) := by
  have hnot : ∀ r', (.ok r : Except Fault Response) = .ok r' → r'.isOk ≠ true := by
    rintro _ ⟨⟩ hok
    exact Response.status_ne_of_isOk hok hstatus
  refine settles_error ?_ (iff_of_true rfl ⟨r, rfl, hstatus⟩) ?_ nofun
  · rintro ⟨r', rows, hr, hok, -⟩
    exact hnot r' hr hok
  · refine iff_of_false nofun ?_
    rintro ⟨r', hr, hok, -⟩
    exact hnot r' hr hok

/-- No flaw of shape is a failed query. -/
theorem isQuery_shape (flaw : ShapeFlaw) : (Fault.shape flaw).isQuery = false := by
  cases flaw <;> rfl

theorem kind_shape_ne (flaw : ShapeFlaw) : (Fault.shape flaw).kind ≠ .malformedQuery := by
  intro h
  have hquery := isQuery_shape flaw
  rw [Fault.isQuery, h] at hquery
  exact absurd hquery (by decide)

/-- **A query that is answered with JSON** has the rows of the table, if it is one. -/
theorem settles_document {document : Value} (hok : r.isOk = true) (hjson : r.json = .ok document) :
    Settles (.ok r) ((Sparql.rowsOf document).map fun rows => ⟨rows, none⟩) := by
  have hreads := Sparql.reads_rowsOf document
  have hdocument : ∀ {r' : Response} {document' : Value}, (.ok r : Except Fault Response) = .ok r' →
      r'.json = .ok document' → document' = document := by
    rintro _ document' ⟨⟩ hjson'
    exact Except.ok.inj (hjson'.symm.trans hjson)
  have hstatus : ¬ ∃ r', (.ok r : Except Fault Response) = .ok r' ∧ r'.status = 400 := by
    rintro ⟨_, ⟨⟩, hstatus⟩
    exact Response.status_ne_of_isOk hok hstatus
  rcases hreads.cases with ⟨rows, htable, hrows⟩ | ⟨hnone, flaw, hflaw⟩
  · rw [hrows]
    refine ⟨fun rows' => ⟨?_, ?_⟩, ?_, iff_of_false nofun hstatus, iff_of_false nofun ?_, nofun⟩
    · rintro ⟨⟩
      exact ⟨rfl, r, rfl, hok, document, hjson, htable⟩
    · obtain ⟨list, failure⟩ := rows'
      rintro ⟨rfl, r', hr, -, document', hjson', htable'⟩
      obtain rfl := hdocument hr hjson'
      obtain rfl : rows = list := Except.ok.inj (hrows.symm.trans ((hreads.ok_iff _).mpr htable'))
      rfl
    · rintro _ r' document' columns bindings ⟨⟩ hr hjson' hdeclares
      obtain rfl := hdocument hr hjson'
      exact htable.columns hdeclares
    · rintro ⟨r', hr, -, document', hjson', hnone⟩
      obtain rfl := hdocument hr hjson'
      exact hnone ⟨rows, htable⟩
  · rw [hflaw]
    refine settles_error ?_ (iff_of_false (kind_shape_ne flaw) hstatus)
      (iff_of_true (isQuery_shape flaw) ⟨r, rfl, hok, document, hjson, hnone⟩) fun _ => ⟨flaw, rfl⟩
    rintro ⟨r', rows, hr, -, document', hjson', htable⟩
    obtain rfl := hdocument hr hjson'
    exact hnone ⟨rows, htable⟩

end Settles

namespace Site

open Gazetteer.Action

variable {site : Site} {endpoint query : String}

/-- **What a server replies** settles the query. -/
theorem settles_reply (timeout : Value)
    (htransport : ∀ fault, site.transport.post endpoint query = .error fault →
      fault.kind.isTransport = true) :
    Settles (site.transport.post endpoint query) (site.reply (.server endpoint timeout) query) := by
  rw [reply]
  cases hsent : site.transport.post endpoint query with
  | error fault =>
    simp only [htransport fault hsent, if_true]
    exact settles_failed rfl fun r hr => absurd hr (by simp)
  | ok r =>
    simp only [Response.rows]
    by_cases hstatus : r.status = 400
    · rw [if_pos hstatus]
      exact settles_rejected hstatus r.body
    · rw [if_neg hstatus]
      cases hok : r.isOk with
      | false =>
        refine settles_failed rfl fun r' hr => ?_
        obtain rfl := Except.ok.inj hr
        exact ⟨hstatus, fun h => absurd (hok.symm.trans h) (by simp)⟩
      | true =>
        cases hjson : r.json with
        | error reason =>
          refine settles_failed rfl fun r' hr => ?_
          obtain rfl := Except.ok.inj hr
          exact ⟨hstatus, fun _ document h => absurd (hjson.symm.trans h) (by simp)⟩
        | ok document => exact settles_document hok hjson

/-- **A query over an open connection to a server** comes to rows, to a failed query, or to a flaw
in the shape of the answer, if the network has no other faults than those of transport. -/
theorem evaluate_settles {id : ConnectionId} {c : Connection}
    (hc : site.connections[id.index]? = some c) (hopen : c.closed = false) {timeout : Value}
    (hbackend : c.backend = .server endpoint timeout) {language : String}
    (hlanguage : Text.lowerCase language = sparql)
    (htransport : ∀ fault, site.transport.post endpoint query = .error fault →
      fault.kind.isTransport = true) :
    Settles (site.transport.post endpoint query)
      (outcome (Site.evaluate id query language) site).1 := by
  obtain ⟨events, hevaluate⟩ := evaluate_eq hc hopen query
  rw [evaluate_of_lowerCase hlanguage, outcome, hevaluate]
  have hsettles := settles_reply timeout htransport
  rw [← hbackend] at hsettles
  exact (congrArg Prod.fst (outcome_ofExcept (site.reply c.backend query) _)).symm ▸ hsettles

/-- A server that answers with an empty array. -/
def emptySite : Site :=
  { Site.bare with
    transport := { Transport.offline with post := fun _ _ => .ok { json := .ok (.array []) } }
    connections := #[{ backend := .server "http://h/repositories/x" .null }] }

theorem evaluate_settles_array : ∃ fault,
    (outcome (Site.evaluate ⟨0⟩ "q" sparql) emptySite).1 = .error fault ∧
      fault.isQuery = false := by
  have htransport : ∀ fault, emptySite.transport.post "http://h/repositories/x" "q" = .error fault →
      fault.kind.isTransport = true := fun fault h => absurd h (by simp [emptySite])
  have hlanguage : Text.lowerCase sparql = sparql := by decide +kernel
  have hc : emptySite.connections[(⟨0⟩ : ConnectionId).index]?
      = some { backend := .server "http://h/repositories/x" .null } := rfl
  have hsettles := evaluate_settles hc rfl rfl hlanguage htransport
  refine hsettles.stray_iff.mpr ⟨_, rfl, rfl, _, rfl, ?_⟩
  rintro ⟨rows, columns, bindings, ⟨top, head, results, entries, htop, -⟩, -⟩
  exact absurd htop (by simp)

end Site

end Gazetteer
