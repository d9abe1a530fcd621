import Gazetteer.Proofs.Repository.Backend

/-!
# Proofs/Repository/Holding — at most one connection is held at a time

Whoever opens a connection holds it until it is closed. `Site.Holds since held` says of a site what
has become of the connections opened since an earlier one: all are done with — closed and released
once, and asked nothing after that — but for the one that is held, if one is.

Opening a connection at a site where none is held leads to one where the new connection is held
(`ends_connect`), queries keep it so (`leads_evaluate`), and closing it leads back
(`leads_closeConnection`). All that a run does to connections is made of these three.
-/

namespace Gazetteer

/-- Whether a connection is open, and has taken every query so far. -/
structure Connection.InUse (c : Connection) : Prop where
  closed : c.closed = false
  released : c.released = 0
  refused : c.refused = []

/-- Whether a connection has been closed and released once, and took every query it got. -/
structure Connection.IsDone (c : Connection) : Prop where
  closed : c.closed = true
  released : c.released = 1
  refused : c.refused = []

namespace Site

open Gazetteer.Action

/-- Whether a site has the connections of an earlier one as they were, and of those opened since
only one in use, if one is held. -/
structure Holds (since : Site) (held : Option ConnectionId) (site : Site) : Prop where
  size : since.connections.size ≤ site.connections.size
  kept : ∀ i < since.connections.size, site.connections[i]? = since.connections[i]?
  done : ∀ i c, since.connections.size ≤ i → held ≠ some ⟨i⟩ → site.connections[i]? = some c →
    c.IsDone
  inUse : ∀ id, held = some id → since.connections.size ≤ id.index ∧
    ∃ c, site.connections[id.index]? = some c ∧ c.InUse

namespace Holds

variable {since site site' : Site} {held : Option ConnectionId} {id : ConnectionId}

/-- **Nothing is held** where nothing has been opened. -/
theorem initial (since : Site) : since.Holds none since where
  size := Nat.le_refl _
  kept _ _ := rfl
  done i c hi _ hc := absurd (Array.getElem?_eq_none hi) (by simp [hc])
  inUse _ h := absurd h (by simp)

theorem of_eq (h : since.Holds held site) (hconnections : site'.connections = site.connections) :
    since.Holds held site' := by
  obtain ⟨hsize, hkept, hdone, hinUse⟩ := h
  rw [← hconnections] at hsize hkept hdone hinUse
  exact ⟨hsize, hkept, hdone, hinUse⟩

/-- **A connection that is opened** is held. -/
theorem push (h : since.Holds none site) {backend : Backend}
    (hpush : site'.connections = site.connections.push { backend }) :
    since.Holds (some ⟨site.connections.size⟩) site' where
  size := by
    have hsize := h.size
    rw [hpush, Array.size_push]
    omega
  kept i hi := by
    have hne : i ≠ site.connections.size := Nat.ne_of_lt (Nat.lt_of_lt_of_le hi h.size)
    rw [hpush, Array.getElem?_push, if_neg hne, h.kept i hi]
  done i c hi hheld hc := by
    have hne : i ≠ site.connections.size := fun heq => hheld (by rw [heq])
    rw [hpush, Array.getElem?_push, if_neg hne] at hc
    exact h.done i c hi (by simp) hc
  inUse id hid := by
    obtain rfl := Option.some.inj hid
    exact ⟨h.size, { backend }, by simp [hpush], rfl, rfl, rfl⟩

/-- **The connection that is held** is changed, and no other: it may be held on, or be done with. -/
theorem modify (h : since.Holds (some id) site) {f : Connection → Connection}
    (hmodify : site'.connections = site.connections.modify id.index f)
    (hdone : held ≠ some id → ∀ c : Connection, c.InUse → (f c).IsDone)
    (hheld : ∀ other, held = some other → other = id ∧ ∀ c : Connection, c.InUse → (f c).InUse) :
    since.Holds held site' := by
  obtain ⟨hle, c, hc, huse⟩ := h.inUse id rfl
  have hother : ∀ i, id.index ≠ i → site'.connections[i]? = site.connections[i]? := fun i hi => by
    rw [hmodify, Array.getElem?_modify, if_neg hi]
  have hown : site'.connections[id.index]? = some (f c) := by
    rw [hmodify, Array.getElem?_modify, if_pos rfl, hc, Option.map_some]
  refine ⟨by rw [hmodify, Array.size_modify]; exact h.size, fun i hi => ?_,
    fun i d hi hne hd => ?_, fun other hsome => ?_⟩
  · rw [hother i (by omega), h.kept i hi]
  · by_cases heq : id.index = i
    · subst heq
      obtain rfl := Option.some.inj (hown.symm.trans hd)
      exact hdone hne c huse
    · rw [hother i heq] at hd
      exact h.done i d hi (fun hid => heq (congrArg ConnectionId.index (Option.some.inj hid))) hd
  · obtain ⟨rfl, hf⟩ := hheld other hsome
    exact ⟨hle, f c, hown, hf c huse⟩

/-- **Where none is held**, all connections that have been opened are done with. -/
theorem exists_opened (h : since.Holds none site) :
    ∃ opened, site.connections.toList = since.connections.toList ++ opened ∧
      ∀ c ∈ opened, c.IsDone := by
  have htake : site.connections.toList.take since.connections.size = since.connections.toList := by
    refine List.ext_getElem? fun i => ?_
    by_cases hi : i < since.connections.size
    · rw [List.getElem?_take_of_lt hi, Array.getElem?_toList, Array.getElem?_toList, h.kept i hi]
    · rw [List.getElem?_eq_none (by simp; omega), List.getElem?_eq_none (by simpa using hi)]
  refine ⟨site.connections.toList.drop since.connections.size, ?_, fun c hc => ?_⟩
  · rw [← htake, List.take_append_drop]
  · obtain ⟨i, hi⟩ := List.mem_iff_getElem?.mp hc
    rw [List.getElem?_drop, Array.getElem?_toList] at hi
    exact h.done _ c (Nat.le_add_right _ i) (by simp) hi

end Holds

/-! ## What is done with connections -/

variable {since : Site}

/-- **What leaves connections alone** changes nothing of what is held. -/
theorem leads_of_keeps_connections {α : Type} {action : Action Site α}
    (h : Keeps Site.connections action) (held : Option ConnectionId) :
    Leads (since.Holds held) action (since.Holds held) :=
  leads_of_outcome fun site hsite => hsite.of_eq (h site)

theorem ends_addConnection (backend : Backend) :
    Ends (since.Holds none) (addConnection { backend }) (fun id => since.Holds (some id))
      (since.Holds none) :=
  fun _ hsite => hsite.push rfl

/-- **Opening a connection**: it is held then, and otherwise none is. -/
theorem ends_connect (repository : RepositoryId) :
    Ends (since.Holds none) (connect repository) (fun id => since.Holds (some id))
      (since.Holds none) := by
  intro site hsite
  rcases connect_cases site repository with
    ⟨backend, site', -, hconnect, -, hpush⟩ | ⟨fault, site', -, hconnect, -, hkept⟩
  · rw [outcome_ok hconnect]
    exact hsite.push hpush
  · rw [outcome_error hconnect]
    exact hsite.of_eq hkept

/-- **A query over the connection that is held** is taken, and the connection is held on. -/
theorem leads_evaluate (id : ConnectionId) (query : String) :
    Leads (since.Holds (some id)) (evaluate id query) (since.Holds (some id)) :=
  leads_of_outcome fun site hsite => by
    obtain ⟨-, c, hc, huse⟩ := hsite.inUse id rfl
    obtain ⟨events, hevaluate⟩ := evaluate_eq hc huse.closed query
    have hrun : outcome (evaluate id query) site
        = (site.reply c.backend query, site.queried id query events) := by
      rw [outcome, hevaluate]
      exact outcome_ofExcept _ _
    rw [hrun]
    refine hsite.modify (f := fun c => { c with queries := c.queries ++ [query] }) rfl
      (fun hne => absurd rfl hne) fun other hother => ⟨(Option.some.inj hother).symm, ?_⟩
    exact fun _ h => ⟨h.closed, h.released, h.refused⟩

/-- **Closing the connection that is held** leaves none held. -/
theorem leads_closeConnection (id : ConnectionId) :
    Leads (since.Holds (some id)) (closeConnection id) (since.Holds none) :=
  leads_of_outcome fun site hsite => by
    obtain ⟨-, c, hc, huse⟩ := hsite.inUse id rfl
    obtain ⟨site', hclose, hmodify⟩ : ∃ site', closeConnection id site = .ok () site' ∧
        site'.connections = site.connections.modify id.index fun c =>
          { c with closed := true, released := c.released + 1 } := by
      simp only [closeConnection, get_bind, hc, huse.closed]
      cases c.backend <;> exact ⟨_, rfl, rfl⟩
    rw [outcome_ok hclose]
    exact hsite.modify hmodify (fun _ d h => ⟨rfl, congrArg (· + 1) h.released, h.refused⟩)
      fun _ hnone => absurd hnone (by simp)

end Site

end Gazetteer
