import Gazetteer.Fault

/-!
# Enrichment/Report — what a pass of enrichment did
-/

namespace Gazetteer

/-- The fault of one annotation: its individual, its query, and what went wrong. -/
structure EnrichmentError where
  inst : String
  query : String
  fault : Fault
deriving Repr, Inhabited

/-- What a pass of enrichment did. -/
structure EnrichmentReport where
  /-- The annotations that name an individual. -/
  processed : Int := 0
  enriched : Int := 0
  deleted : Int := 0
  errors : List EnrichmentError := []
deriving Repr, Inhabited

namespace EnrichmentReport

/-- Whether nothing went wrong. -/
def success (r : EnrichmentReport) : Bool := r.errors.isEmpty

/-- The report with one more error. -/
def addError (r : EnrichmentReport) (inst query : String) (fault : Fault) : EnrichmentReport :=
  { r with errors := r.errors ++ [⟨inst, query, fault⟩] }

/-- The report in one line. -/
def summary (r : EnrichmentReport) : String :=
  "Enrichment: " ++ toString r.processed ++ " annotazioni, " ++ toString r.enriched
    ++ " arricchite, " ++ toString r.deleted ++ " rimosse, "
    ++ toString r.errors.length ++ " errori"

end EnrichmentReport

end Gazetteer
