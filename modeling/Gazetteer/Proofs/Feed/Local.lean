import Gazetteer.Proofs.Feed.Outcome
import Gazetteer.Proofs.Repository.Imports

/-!
# Proofs/Feed/Local — whatever becomes of local files

A push of local files has many places to fail at: the location of the configuration and of each
import, reading them, the query, its form, and the rows. To a listener that takes everything it
either hands the records of all rows, or it is a failed query, unless the configuration is misplaced
(`push_files_cases`). Then the push fails with the flaw in the location, which is no failed query.
-/

namespace Gazetteer.Feed

open Gazetteer.Action Repository

/-- What an engine cannot answer is a failed query. -/
theorem isQuery_of_rows_eq_error {engine : Rdf.Engine} {graph : Rdf.Graph} {query : String}
    {fault : Fault} (h : engine.rows graph query = .error fault) : fault.isQuery = true := by
  rw [Rdf.Engine.rows] at h
  split at h
  · split at h <;> (obtain rfl := Except.error.inj h; rfl)
  · split at h
    · exact absurd h (by simp)
    · obtain rfl := Except.error.inj h
      rfl

theorem isQuery_resource (flaw : Resource.Flaw) : (Fault.resource flaw).isQuery = false := rfl

variable {ℓ : Type} {listener : Listener ℓ} {rows : Rows} {l : ℓ}

/-- **Delivering local rows** to a listener that takes everything hands over all records, or is a
failed query. -/
theorem delivered_cases (htakes : ∀ e l, ∃ l', listener e l = .ok () l')
    (hfailure : ∀ fault, rows.failure = some fault → fault.isQuery = true) (site : Site) :
    (∃ es l', rows.failure = none ∧ List.Forall₂ Row.Carries rows.rows es ∧
      handAll listener es l = .ok () l' ∧
      delivered listener site l (.ok rows) = (.ok (), site, l')) ∨
    ∃ fault l', delivered listener site l (.ok rows) = (.error fault, site, l') ∧
      fault.isQuery = true := by
  obtain ⟨handed, stop, l', hdelivered⟩ := exists_delivered listener rows l
  have heq := delivered_eq hdelivered site
  cases hdelivered with
  | all hrows hnone hhand => exact .inl ⟨handed, l', hnone, hrows, hhand, heq⟩
  | failure hrows hsome hhand => exact .inr ⟨_, l', heq, hfailure _ hsome⟩
  | row hsplit hrows hbad hhand => exact .inr ⟨_, l', heq, rfl⟩
  | refused hsplit hrows hrow hhand hrefuse =>
    obtain ⟨l₂, htake⟩ := htakes _ _
    exact absurd (htake.symm.trans hrefuse) (by simp)

/-- **Pushing local files** hands the records of all rows to a listener that takes everything, or is
a failed query, unless the configuration is misplaced, and then it is none. -/
theorem push_files_cases (site : Site) (config : Resource) (query : String)
    (fingerprint : Option Int) (htakes : ∀ e l, ∃ l', listener e l = .ok () l') (l : ℓ) :
    (∃ flaw site', IsMisplaced site.engine site.files config flaw ∧
      (Fault.resource flaw).isQuery = false ∧
      outcome (push listener (.files config query fingerprint)) (site, l)
        = (.error (.resource flaw), site', l)) ∨
    (¬ ∃ flaw, IsMisplaced site.engine site.files config flaw) ∧
      ((∃ rows es site' l', localRows site.engine site.files config query = .ok rows ∧
        rows.failure = none ∧ List.Forall₂ Row.Carries rows.rows es ∧
        handAll listener es l = .ok () l' ∧
        outcome (push listener (.files config query fingerprint)) (site, l)
          = (.ok (), site', l')) ∨
      ∃ fault site' l', outcome (push listener (.files config query fingerprint)) (site, l)
        = (.error fault, site', l') ∧ fault.isQuery = true) := by
  obtain ⟨site', -, hrun⟩ := push_files_eq site config query fingerprint
  rw [hrun]
  cases hgraph : graphOf site.engine site.files config with
  | error fault =>
    have hrows : localRows site.engine site.files config query = .error fault := by
      rw [localRows, hgraph]
    rw [hrows]
    rcases graphOf_error hgraph with hquery | ⟨flaw, hmisplaced, rfl⟩
    · refine .inr ⟨?_, .inr ⟨fault, site', l, rfl, hquery⟩⟩
      rintro ⟨flaw, hmisplaced⟩
      obtain rfl := Except.error.inj (hgraph.symm.trans hmisplaced.graphOf_eq)
      exact absurd (hquery.symm.trans (isQuery_resource flaw)) (by simp)
    · exact .inl ⟨flaw, site', hmisplaced, isQuery_resource flaw, rfl⟩
  | ok graph =>
    have hplaced : ¬ ∃ flaw, IsMisplaced site.engine site.files config flaw := by
      rintro ⟨flaw, hmisplaced⟩
      exact absurd (hgraph.symm.trans hmisplaced.graphOf_eq) (by simp)
    refine .inr ⟨hplaced, ?_⟩
    cases hrows : localRows site.engine site.files config query with
    | error fault =>
      have hquery : fault.isQuery = true := by
        rw [localRows, hgraph] at hrows
        exact isQuery_of_rows_eq_error hrows
      exact .inr ⟨fault, site', l, rfl, hquery⟩
    | ok rows =>
      have hfailure : ∀ fault, rows.failure = some fault → fault.isQuery = true :=
        fun _ => isQuery_of_failure_localRows hrows
      rcases delivered_cases htakes hfailure site' with ⟨es, l', hnone, hcarry, hhand, heq⟩ |
        ⟨fault, l', heq, hquery⟩
      · exact .inl ⟨rows, es, site', l', rfl, hnone, hcarry, hhand, heq⟩
      · exact .inr ⟨fault, site', l', heq, hquery⟩

/-- An engine that reads an import of a `file:` URL with an open bracket into every graph. -/
def bracketSite : Site :=
  { Site.bare with engine := { Rdf.Engine.blank with
      parse := fun _ _ _ _ _ => .ok { imports := [.iri "file://[x"] } } }

theorem push_files_cases_bracket : ∃ flaw site',
    outcome (push (collector none) (.files (.path ⟨0, ["config.ttl"]⟩) "q" none)) (bracketSite, [])
      = (.error (.resource flaw), site', []) ∧ (Fault.resource flaw).isQuery = false := by
  have htext : "file://[x".toList = "file:".toList ++ "//[x".toList := rfl
  have himports : [Rdf.Import.iri "file://[x"] = [] ++ .iri "file://[x" :: [] := rfl
  have hmisplaced : IsMisplaced bracketSite.engine bracketSite.files (.path ⟨0, ["config.ttl"]⟩)
      (.host .unbalanced) := .source rfl rfl himports rfl (.iri htext (by decide))
  have htakes : ∀ e l, ∃ l', collector none e l = .ok () l' := fun e l => ⟨l ++ [e], rfl⟩
  rcases push_files_cases bracketSite (.path ⟨0, ["config.ttl"]⟩) "q" none htakes [] with
    ⟨flaw, site', -, hquery, hrun⟩ | ⟨hplaced, -⟩
  · exact ⟨flaw, site', hrun, hquery⟩
  · exact absurd ⟨_, hmisplaced⟩ hplaced

end Gazetteer.Feed
