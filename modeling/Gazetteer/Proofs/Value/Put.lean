import Gazetteer.Value.Basic

/-!
# Proofs/Value/Put — members that are put under a key

`Value.put` leaves the members under other keys as they are, in their order (`filter_put_of_ne`),
and puts no key twice (`nodup_keys_put`). A lookup then finds what has been put. When members are
put one after the other, each key that was there keeps its place, and the others follow
(`putAll_eq`).
-/

namespace Gazetteer.Value

section Put

variable {κ α : Type} [BEq κ] [LawfulBEq κ] {key : κ} {value : α} {members : List (κ × α)}

theorem mem_of_mem_put {m : κ × α} (h : m ∈ put key value members) :
    m = (key, value) ∨ m ∈ members := by
  induction members with
  | nil => exact .inl (List.mem_singleton.mp h)
  | cons m' rest ih =>
    obtain ⟨k, v⟩ := m'
    rw [put] at h
    by_cases hk : k = key
    · rw [if_pos (beq_iff_eq.mpr hk)] at h
      rcases List.mem_cons.mp h with rfl | h
      · exact .inl (by rw [hk])
      · exact .inr (List.mem_cons_of_mem _ h)
    · rw [if_neg (by simpa using hk)] at h
      rcases List.mem_cons.mp h with rfl | h
      · exact .inr List.mem_cons_self
      · exact (ih h).imp_right (List.mem_cons_of_mem _)

/-- **No key twice** stays so. -/
theorem nodup_keys_put (h : (members.map Prod.fst).Nodup) :
    ((put key value members).map Prod.fst).Nodup := by
  induction members with
  | nil => simp [put]
  | cons m rest ih =>
    obtain ⟨k, v⟩ := m
    obtain ⟨hk, hrest⟩ := List.nodup_cons.mp h
    rw [put]
    by_cases heq : k = key
    · rw [if_pos (beq_iff_eq.mpr heq)]
      exact h
    · rw [if_neg (by simpa using heq)]
      refine List.nodup_cons.mpr ⟨fun hmem => ?_, ih hrest⟩
      obtain ⟨m, hm, rfl⟩ := List.mem_map.mp hmem
      rcases mem_of_mem_put hm with rfl | hm
      · exact heq rfl
      · exact hk (List.mem_map.mpr ⟨m, hm, rfl⟩)

/-- **The members under other keys** stay, in their order. -/
theorem filter_put_of_ne {p : κ × α → Bool} (hp : ∀ v, p (key, v) = false) :
    (put key value members).filter p = members.filter p := by
  induction members with
  | nil => simp [put, hp]
  | cons m rest ih =>
    obtain ⟨k, v⟩ := m
    by_cases hk : k = key
    · simp [put, hk, hp]
    · simp [put, hk, List.filter_cons, ih]

theorem put_of_notMem (h : key ∉ members.map Prod.fst) :
    put key value members = members ++ [(key, value)] := by
  induction members with
  | nil => rfl
  | cons m rest ih =>
    obtain ⟨k, v⟩ := m
    obtain ⟨hk, hrest⟩ := not_or.mp (mt List.mem_cons.mpr h)
    rw [put, if_neg (by simpa using Ne.symm hk), ih hrest, List.cons_append]

theorem put_of_mem (hnodup : (members.map Prod.fst).Nodup) (h : key ∈ members.map Prod.fst) :
    put key value members = members.map fun m => if m.1 == key then (m.1, value) else m := by
  induction members with
  | nil => exact absurd h List.not_mem_nil
  | cons m rest ih =>
    obtain ⟨k, v⟩ := m
    obtain ⟨hk, hrest⟩ := List.nodup_cons.mp hnodup
    rw [put, List.map_cons]
    by_cases heq : k = key
    · subst heq
      have hothers : ∀ m ∈ rest, (m.1 == k) = false := fun m hm =>
        beq_false_of_ne fun hmk => hk (List.mem_map.mpr ⟨m, hm, hmk⟩)
      rw [if_pos (beq_self_eq_true k), if_pos (beq_self_eq_true k)]
      refine congrArg _ (Eq.symm ?_)
      rw [List.map_congr_left fun m hm => by rw [hothers m hm, if_neg Bool.false_ne_true],
        List.map_id']
    · have hmem : key ∈ rest.map Prod.fst := (List.mem_cons.mp h).resolve_left (Ne.symm heq)
      rw [if_neg (by simpa using heq), if_neg (by simpa using heq), ih hrest hmem]

/-- Puts members one after the other. -/
def putAll (news members : List (κ × α)) : List (κ × α) :=
  news.foldl (fun members m => put m.1 m.2 members) members

/-- **Members that are put one after the other**: a key that was there keeps its place, and has what
was put under it; the others follow in order. -/
theorem putAll_eq {news : List (κ × α)} (hnews : (news.map Prod.fst).Nodup)
    (hnodup : (members.map Prod.fst).Nodup) :
    putAll news members
      = members.map (fun m => (m.1, ((news.find? fun new => new.1 == m.1).map Prod.snd).getD m.2))
        ++ news.filter fun new => !(members.map Prod.fst).contains new.1 := by
  induction news generalizing members with
  | nil => simp [putAll]
  | cons new rest ih =>
    obtain ⟨k, v⟩ := new
    obtain ⟨hk, hrest⟩ := List.nodup_cons.mp hnews
    have hrest_ne : ∀ new ∈ rest, new.1 ≠ k := fun new hnew heq =>
      hk (List.mem_map.mpr ⟨new, hnew, heq⟩)
    have hfound : (rest.find? fun new => new.1 == k) = none :=
      List.find?_eq_none.mpr fun new hnew => by simpa using hrest_ne new hnew
    have hput : putAll ((k, v) :: rest) members = putAll rest (put k v members) := rfl
    rw [hput, ih hrest (nodup_keys_put hnodup)]
    by_cases hmem : k ∈ members.map Prod.fst
    · have hkeys : (put k v members).map Prod.fst = members.map Prod.fst := by
        rw [put_of_mem hnodup hmem, List.map_map]
        refine List.map_congr_left fun m _ => ?_
        rw [Function.comp_apply, apply_ite Prod.fst, ite_self]
      rw [hkeys, List.filter_cons, if_neg (by simpa using hmem), put_of_mem hnodup hmem,
        List.map_map]
      refine congrArg (· ++ _) (List.map_congr_left fun m _ => ?_)
      by_cases hm : m.1 = k
      · simp [hm, hfound]
      · simp [hm, Ne.symm hm]
    · have hold : ∀ m ∈ members, (k == m.1) = false := fun m hm =>
        beq_false_of_ne fun heq => hmem (List.mem_map.mpr ⟨m, hm, heq.symm⟩)
      have hothers : (rest.filter fun new => !((put k v members).map Prod.fst).contains new.1)
          = rest.filter fun new => !(members.map Prod.fst).contains new.1 := by
        refine List.filter_congr fun new hnew => ?_
        rw [put_of_notMem hmem]
        simp [hrest_ne new hnew]
      rw [hothers, put_of_notMem hmem, List.map_append, List.filter_cons,
        if_pos (by simpa using hmem), List.append_assoc]
      have hmap : (members.map fun m =>
            (m.1, ((rest.find? fun new => new.1 == m.1).map Prod.snd).getD m.2))
          = members.map fun m =>
            (m.1, ((((k, v) :: rest).find? fun new => new.1 == m.1).map Prod.snd).getD m.2) :=
        List.map_congr_left fun m hm => by rw [List.find?_cons_of_neg (by simp [hold m hm])]
      rw [hmap]
      simp [hfound]

end Put

theorem find?_put_self (key : String) (value : Value) (members : List (String × Value)) :
    find? key (put key value members) = some value := by
  induction members with
  | nil => simp [put, find?]
  | cons m rest ih =>
    obtain ⟨k, v⟩ := m
    by_cases hk : k = key
    · simp [put, hk, find?]
    · rw [put, if_neg (by simpa using hk), find?, List.find?_cons_of_neg (by simpa using hk)]
      exact ih

/-- Members under another key do not count in a lookup. -/
theorem find?_filter_of_ne {key other : String} (h : key ≠ other)
    (members : List (String × Value)) :
    find? key (members.filter fun m => m.1 != other) = find? key members := by
  rw [find?, find?, List.find?_filter]
  refine congrArg (Option.map Prod.snd) (congrArg (List.find? · members) (funext fun m => ?_))
  by_cases hm : m.1 = key
  · simp [hm, h]
  · simp [hm]

/-- **Putting what is there** changes nothing. -/
theorem put_of_find? {key : String} {value : Value} {members : List (String × Value)}
    (h : find? key members = some value) : put key value members = members := by
  induction members with
  | nil => exact absurd h (by simp [find?])
  | cons m rest ih =>
    obtain ⟨k, v⟩ := m
    by_cases hk : k = key
    · have hv : v = value := by simpa [find?, hk] using h
      rw [put, if_pos (beq_iff_eq.mpr hk), hv]
    · have hrest : find? key rest = some value := by simpa [find?, hk] using h
      rw [put, if_neg (by simpa using hk), ih hrest]

end Gazetteer.Value
