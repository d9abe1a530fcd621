import Gazetteer.Proofs.Repository.Backend

/-!
# Proofs/Repository/Queries — the queries that connections have on record

A site keeps the queries of every connection, and `Site.asked` is what has been added to them from
one site to a later one. `Asks` says of two sites that nothing lies between them but queries to one
connection: all connections answer on (`Asks.serves`), and these queries are the ones that have been
asked (`Asks.asked_eq`). Opening and closing connections asks nothing.
-/

namespace Gazetteer.Site

open Gazetteer.Action

/-- The queries on record for the connection at a place. -/
def queriesAt (site : Site) (i : Nat) : List String :=
  (site.connections[i]?.map Connection.queries).getD []

/-- The queries that have been asked from one site to a later one. -/
def asked (before after : Site) : List String :=
  (List.range after.connections.size).flatMap fun i =>
    (after.queriesAt i).drop (before.queriesAt i).length

/-- **Nothing has been asked** where the records are the same. -/
theorem asked_eq_nil {before after : Site} (h : ∀ i, after.queriesAt i = before.queriesAt i) :
    asked before after = [] :=
  List.flatMap_eq_nil_iff.mpr fun i _ => by rw [h i, List.drop_length]

/-- What has been asked is read off the records alone. -/
theorem asked_congr {before before' after after' : Site}
    (hbefore : ∀ i, before'.queriesAt i = before.queriesAt i)
    (hafter : ∀ i, after'.queriesAt i = after.queriesAt i)
    (hsize : after'.connections.size = after.connections.size) :
    asked before' after' = asked before after := by
  simp only [asked, hbefore, hafter, hsize]

/-- A list whose parts are empty but for one is this part. -/
theorem flatMap_range_single {α : Type} {f : Nat → List α} {i : Nat} (hf : ∀ j, j ≠ i → f j = []) :
    ∀ {n : Nat}, i < n → (List.range n).flatMap f = f i
  | n + 1, hi => by
      rw [List.range_succ, List.flatMap_append, List.flatMap_singleton]
      by_cases hn : i = n
      · have hnil : (List.range n).flatMap f = [] :=
          List.flatMap_eq_nil_iff.mpr fun j hj => hf j (by
            have := List.mem_range.mp hj
            omega)
        rw [hnil, hn, List.nil_append]
      · rw [flatMap_range_single hf (by omega), hf n (Ne.symm hn), List.append_nil]

/-- Whether nothing lies between two sites but queries to one connection. -/
structure Asks (id : ConnectionId) (queries : List String) (site site' : Site) : Prop where
  same : SameSources site site'
  connections : ∀ i, site'.connections[i]? = site.connections[i]?.map fun c : Connection =>
    { c with queries := c.queries ++ if i = id.index then queries else [] }

variable {id other : ConnectionId} {queries queries' : List String} {site site' site'' : Site}
  {answer : String → Except Fault Rows}

/-- **A connection answers on** where its entry and the sources are the same. -/
theorem Serves.of_same (h : site.Serves id answer) (hsame : SameSources site site')
    (hc : ∀ c, site.connections[id.index]? = some c →
      ∃ queries, site'.connections[id.index]? = some { c with queries }) :
    site'.Serves id answer := by
  obtain ⟨c, hget, hopen, hreply⟩ := h
  obtain ⟨queries, hget'⟩ := hc c hget
  exact ⟨_, hget', hopen, fun query => by rw [hsame.reply]; exact hreply query⟩

theorem Serves.index_lt (h : site.Serves id answer) : id.index < site.connections.size := by
  obtain ⟨c, hget, -⟩ := h
  exact (Array.getElem?_eq_some_iff.mp hget).1

namespace Asks

theorem refl (id : ConnectionId) (site : Site) : Asks id [] site site where
  same := ⟨rfl, rfl, rfl⟩
  connections i := by simp

theorem trans (h : Asks id queries site site') (h' : Asks id queries' site' site'') :
    Asks id (queries ++ queries') site site'' where
  same := h.same.trans h'.same
  connections i := by
    rw [h'.connections, h.connections, Option.map_map]
    refine congrArg (Option.map · _) (funext fun c => ?_)
    by_cases hi : i = id.index <;> simp [hi]

theorem serves (h : Asks id queries site site') (hserves : site.Serves other answer) :
    site'.Serves other answer :=
  hserves.of_same h.same fun c hc => ⟨_, by rw [h.connections, hc]; rfl⟩

/-- **What has been asked** is the queries. -/
theorem asked_eq (h : Asks id queries site site') (hserves : site.Serves id answer) :
    asked site site' = queries := by
  have hdrop : ∀ i, (site'.queriesAt i).drop (site.queriesAt i).length
      = if i = id.index ∧ i < site.connections.size then queries else [] := by
    intro i
    rw [queriesAt, queriesAt, h.connections]
    by_cases hi : i < site.connections.size
    · rw [Array.getElem?_eq_getElem hi]
      by_cases heq : i = id.index
      · have hlt : id.index < site.connections.size := heq ▸ hi
        simp [heq, hlt]
      · simp [heq]
    · simp [hi]
  have hlt := hserves.index_lt
  rw [asked, flatMap_range_single ?_ (h.serves hserves).index_lt, hdrop]
  · simp [hlt]
  · intro j hj
    rw [hdrop, if_neg fun hand => hj hand.1]

end Asks

/-- **A query over a connection that answers like a function** has this answer, or this fault. -/
theorem Serves.outcome_evaluate (h : site.Serves id answer) (query : String) :
    ∃ site', outcome (Site.evaluate id query) site = (answer query, site') ∧
      Asks id [query] site site' := by
  obtain ⟨c, hc, hopen, hreply⟩ := h
  obtain ⟨events, hevaluate⟩ := evaluate_eq hc hopen query
  refine ⟨site.queried id query events, ?_, sameSources_with site events site.graphs _, fun i => ?_⟩
  · rw [outcome, hevaluate, ← hreply query]
    exact outcome_ofExcept _ _
  · simp only [queried, Array.getElem?_modify]
    by_cases hi : i = id.index
    · simp [hi]
    · simp [hi, Ne.symm hi]

/-! ## Opening and closing -/

/-- Whether nothing lies between two sites but the opening of a connection. -/
structure Opens (backend : Backend) (site site' : Site) : Prop where
  same : SameSources site site'
  connections : site'.connections = site.connections.push { backend }

namespace Opens

variable {backend : Backend}

theorem serves (h : Opens backend site site') (hserves : site.Serves other answer) :
    site'.Serves other answer :=
  hserves.of_same h.same fun c hc => ⟨c.queries, by
    rw [h.connections, Array.getElem?_push, if_neg (Nat.ne_of_lt hserves.index_lt), hc]⟩

/-- **The new connection** answers like its backend. -/
theorem serves_new (h : Opens backend site site') :
    site'.Serves ⟨site.connections.size⟩ (site.reply backend) :=
  ⟨{ backend }, by simp [h.connections], rfl, fun query => by rw [h.same.reply]⟩

theorem queriesAt_eq (h : Opens backend site site') (i : Nat) :
    site'.queriesAt i = site.queriesAt i := by
  rw [queriesAt, queriesAt, h.connections, Array.getElem?_push]
  by_cases hi : i = site.connections.size <;> simp [hi]

end Opens

/-- Whether nothing lies between two sites but the closing of a connection. -/
structure Closes (id : ConnectionId) (site site' : Site) : Prop where
  same : SameSources site site'
  connections : ∀ i, site'.connections[i]? = site.connections[i]?.map fun c : Connection =>
    if i = id.index then { c with closed := true, released := c.released + 1 } else c

namespace Closes

theorem serves (h : Closes id site site') (hne : other.index ≠ id.index)
    (hserves : site.Serves other answer) : site'.Serves other answer :=
  hserves.of_same h.same fun c hc => ⟨c.queries, by rw [h.connections, hc]; simp [hne]⟩

theorem queriesAt_eq (h : Closes id site site') (i : Nat) :
    site'.queriesAt i = site.queriesAt i := by
  rw [queriesAt, queriesAt, h.connections, Option.map_map]
  refine congrArg (fun queries : Option (List String) => queries.getD []) ?_
  refine congrArg (Option.map · _) (funext fun c => ?_)
  by_cases hi : i = id.index <;> simp [hi]

theorem size_eq (h : Closes id site site') :
    site'.connections.size = site.connections.size := by
  have hle : ∀ i, site'.connections.size ≤ i ↔ site.connections.size ≤ i := fun i => by
    rw [← Array.getElem?_eq_none_iff, ← Array.getElem?_eq_none_iff, h.connections,
      Option.map_eq_none_iff]
  exact Nat.le_antisymm ((hle _).mpr (Nat.le_refl _)) ((hle _).mp (Nat.le_refl _))

end Closes

/-- **Closing an open connection** does just that. -/
theorem exists_closes (h : site.Serves id answer) :
    ∃ site', closeConnection id site = .ok () site' ∧ Closes id site site' := by
  obtain ⟨c, hc, hopen, -⟩ := h
  have hget : ∀ i, (site.connections.modify id.index fun c : Connection =>
      { c with closed := true, released := c.released + 1 })[i]?
      = site.connections[i]?.map fun c : Connection =>
        if i = id.index then { c with closed := true, released := c.released + 1 } else c := by
    intro i
    rw [Array.getElem?_modify]
    by_cases hi : i = id.index
    · simp [hi]
    · simp [hi, Ne.symm hi]
  simp only [closeConnection, get_bind, hc, hopen]
  cases c.backend <;> exact ⟨_, rfl, sameSources_with site _ site.graphs _, hget⟩

end Gazetteer.Site
