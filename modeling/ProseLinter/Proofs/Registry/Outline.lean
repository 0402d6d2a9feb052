import ProseLinter.Proofs.Registry.Requests

/-!
# Registries that differ in their rule objects

Engines that load the same rules make objects of their own for them, so their registries are never
equal. What such registries have in common is the order of the names and the outline of each entry:
its name, origin and option.

`reached requests n` is the registry that the first `n` of a list of requests leave. When all
requests can be served, an entry with the outline of one of these requests is accepted by every
registry like one that was reached, and the result is like one that is reached.

* `Like.map_outline_entries` : registries that are alike list the same outlines in the same order.
* `enter_reached` : the next request leads from one reached registry to the next.
* `Like.enter` : an entry of the same outline keeps a registry like a reached one.
-/

namespace ProseLinter

/-- What an entry has beside its rule. -/
def RuleEntry.outline (x : RuleEntry) : String × Origin × RuleOption :=
  (x.name, x.origin, x.option)

namespace Registry

/-- Two registries have the same names in the same order, with entries of the same outlines. -/
structure Like (r r' : Registry) : Prop where
  names_eq : r.names = r'.names
  outline_eq (name : String) : (r.get? name).map (·.outline) = (r'.get? name).map (·.outline)

/-- Requests for one name that stand for each other are of the same origin, so that no two of them
are alike only because they share an object. -/
def OriginsAgree (requests : List Request) : Prop :=
  ∀ x y, .ok x ∈ requests → .ok y ∈ requests → x.name = y.name → x.standsFor y = true →
    x.origin.same y.origin = true

/-- The registry that the first requests leave. -/
def reached (requests : List Request) (n : Nat) : Registry :=
  (empty.serve (requests.take n)).2

/-! ### Likeness -/

theorem Like.refl (r : Registry) : r.Like r where
  names_eq := rfl
  outline_eq _ := rfl

/-- Entries of one outline can be appended to registries that are alike. -/
theorem Like.append {r r' : Registry} (h : r.Like r') {x y : RuleEntry}
    (hxy : x.outline = y.outline) : (r.append x).Like (r'.append y) where
  names_eq := by
    have hname : x.name = y.name := congrArg Prod.fst hxy
    rw [names_append, names_append, h.names_eq, hname]
  outline_eq name := by
    have hname : x.name = y.name := congrArg Prod.fst hxy
    rw [get?_append, get?_append, hname]
    split
    · exact congrArg some hxy
    · exact h.outline_eq name

/-- Registries that are alike list the same outlines in the same order. -/
theorem Like.map_outline_entries {r r' : Registry} (h : r.Like r') :
    r.entries.map (·.outline) = r'.entries.map (·.outline) := by
  rw [entries, entries, List.map_filterMap, List.map_filterMap, h.names_eq]
  exact List.filterMap_congr fun name _ => h.outline_eq name

/-- A name that is free in a registry is free in one that is alike. -/
theorem Like.get?_eq_none {r r' : Registry} (h : r.Like r') {name : String}
    (hn : r'.get? name = none) : r.get? name = none := by
  rw [← Option.map_eq_none_iff, h.outline_eq, hn, Option.map_none]

/-- The entry of a name has one of the same outline in a registry that is alike. -/
theorem Like.exists_get? {r r' : Registry} (h : r.Like r') {name : String} {e : RuleEntry}
    (he : r'.get? name = some e) : ∃ e', r.get? name = some e' ∧ e'.outline = e.outline := by
  rw [← Option.map_eq_some_iff, h.outline_eq, he, Option.map_some]

/-! ### Where the entries come from -/

/-- An entry of a registry that served requests was there before or was requested. -/
theorem mem_of_get?_serve {r : Registry} {requests : List Request} {name : String} {e : RuleEntry}
    (he : (r.serve requests).2.get? name = some e) : r.get? name = some e ∨ .ok e ∈ requests := by
  induction requests generalizing r with
  | nil => exact .inl he
  | cons q rest ih =>
    cases q with
    | error err => exact .inl he
    | ok x =>
      cases hx : r.enter x with
      | error err =>
        rw [serve_cons_of_enter_eq_error hx] at he
        exact .inl he
      | ok out =>
        rw [serve_cons_of_enter_eq_ok hx] at he
        rcases ih he with hout | hmem
        · -- It was there after the first request, which added at most the entry asked for.
          obtain ⟨-, -, hnew⟩ | ⟨-, -, hnew⟩ := enter_eq_ok_iff.1 hx
          · rw [hnew, get?_append] at hout
            split at hout
            · cases hout
              exact .inr List.mem_cons_self
            · exact .inl hout
          · rw [hnew] at hout
            exact .inl hout
        · exact .inr (List.mem_cons_of_mem _ hmem)

/-- The entries of a registry that was reached were requested. -/
theorem mem_of_get?_reached {requests : List Request} {n : Nat} {name : String} {e : RuleEntry}
    (he : (reached requests n).get? name = some e) : .ok e ∈ requests := by
  rcases mem_of_get?_serve he with hempty | hmem
  · rw [get?_empty] at hempty
    cases hempty
  · exact List.mem_of_mem_take hmem

/-! ### The registries that are reached -/

theorem consistent_reached (requests : List Request) (n : Nat) :
    (reached requests n).Consistent :=
  (extends_serve _ _).consistent consistent_empty

section Reached

variable {requests : List Request} {solo : Registry}

/-- When all requests are served, so are the first ones. -/
theorem serve_take (h : empty.serve requests = (.ok (), solo)) (n : Nat) :
    empty.serve (requests.take n) = (.ok (), reached requests n) := by
  rw [← List.take_append_drop n requests, serve_append] at h
  rcases hfirst : empty.serve (requests.take n) with ⟨err | ⟨⟩, r⟩
  · rw [hfirst] at h
    cases h
  · rw [reached, hfirst]

theorem reached_of_length_le (h : empty.serve requests = (.ok (), solo)) {n : Nat}
    (hn : requests.length ≤ n) : reached requests n = solo := by
  rw [reached, List.take_of_length_le hn, h]

/-- More requests extend what was reached. -/
theorem extends_reached (h : empty.serve requests = (.ok (), solo)) {n m : Nat} (hnm : n ≤ m) :
    (reached requests n).Extends (reached requests m) := by
  have htake : (requests.take m).take n = requests.take n := by
    rw [List.take_take, Nat.min_eq_left hnm]
  have hsplit := List.take_append_drop n (requests.take m)
  rw [htake] at hsplit
  rw [reached.eq_def requests m, ← hsplit, serve_append, serve_take h n]
  exact extends_serve _ _

/-- The next request leads to what is reached next. -/
theorem enter_reached (h : empty.serve requests = (.ok (), solo)) {n : Nat} {x : RuleEntry}
    (hx : requests[n]? = some (.ok x)) :
    ∃ added, (reached requests n).enter x = .ok (added, reached requests (n + 1)) := by
  have hserve := serve_take h (n + 1)
  rw [List.take_add_one, hx, Option.toList_some, serve_append, serve_take h n] at hserve
  obtain ⟨y, added, heq, henter⟩ := serve_singleton_eq_ok_iff.1 hserve
  cases heq
  exact ⟨added, henter⟩

/-- What was requested is provided once it was reached. -/
theorem provides_reached (h : empty.serve requests = (.ok (), solo)) {d n : Nat} (hd : d < n)
    {x : RuleEntry} (hx : requests[d]? = some (.ok x)) : (reached requests n).Provides x := by
  have hmem : .ok x ∈ requests.take n := by
    rw [List.mem_iff_getElem?]
    exact ⟨d, by rw [List.getElem?_take_of_lt hd, hx]⟩
  obtain ⟨y, heq, hprovided⟩ := provides_of_serve (serve_take h n) _ hmem
  cases heq
  exact hprovided

/-- What is bound to a name when the request for it comes stands for it. -/
theorem standsFor_of_get?_reached (h : empty.serve requests = (.ok (), solo)) {d n : Nat}
    (hd : d ≤ n) {x e : RuleEntry} (hx : requests[d]? = some (.ok x))
    (he : (reached requests n).get? x.name = some e) : e.standsFor x = true := by
  -- One request later the name is bound to what stands for it, and that is still the same entry.
  obtain ⟨e', he', hstands⟩ := provides_reached h (Nat.lt_succ_of_le hd) hx
  have hlater := (extends_reached h (Nat.le_succ n)).get?_eq he
  rw [hlater] at he'
  cases he'
  exact hstands

/-- A request for a name that is bound already leads nowhere new. -/
theorem reached_max_of_get?_eq_some (h : empty.serve requests = (.ok (), solo)) {d n : Nat}
    (hd : d ≤ n) {x e : RuleEntry} (hx : requests[d]? = some (.ok x))
    (he : (reached requests n).get? x.name = some e) :
    reached requests (max n (d + 1)) = reached requests n := by
  rcases Nat.lt_or_eq_of_le hd with hlt | rfl
  · rw [Nat.max_eq_left hlt]
  · obtain ⟨added, henter⟩ := enter_reached h hx
    rw [enter_of_standsFor he (standsFor_of_get?_reached h hd hx he)] at henter
    rw [Nat.max_eq_right (Nat.le_succ d)]
    exact (congrArg Prod.snd (Except.ok.inj henter)).symm

/-- A registry like a reached one accepts an entry with the outline of a request that was reached or
comes next, and stays like a reached one. -/
theorem Like.enter (h : empty.serve requests = (.ok (), solo)) (hagree : OriginsAgree requests)
    {r : Registry} {d n : Nat} (hr : r.Like (reached requests n)) (hd : d ≤ n) {x y : RuleEntry}
    (hx : requests[d]? = some (.ok x)) (hxy : y.outline = x.outline) :
    ∃ added r', r.enter y = .ok (added, r') ∧ r'.Like (reached requests (max n (d + 1))) := by
  have hname : y.name = x.name := congrArg Prod.fst hxy
  cases he : (reached requests n).get? x.name with
  | none =>
    -- The name is free, so this is the next request for every engine.
    have hn : d = n := by
      refine Nat.le_antisymm hd (Nat.le_of_not_lt fun hlt => ?_)
      obtain ⟨e, he', -⟩ := provides_reached h hlt hx
      rw [he] at he'
      cases he'
    subst hn
    obtain ⟨added, henter⟩ := enter_reached h hx
    rw [enter_of_get?_eq_none he] at henter
    refine ⟨true, r.append y, enter_of_get?_eq_none ?_, ?_⟩
    · rw [hname]
      exact hr.get?_eq_none he
    · have hnext : (reached requests d).append x = reached requests (d + 1) :=
        congrArg Prod.snd (Except.ok.inj henter)
      rw [Nat.max_eq_right (Nat.le_succ d), ← hnext]
      exact hr.append hxy
  | some e =>
    -- The entry that the name is bound to has the origin of the one that was asked for.
    have hstands := standsFor_of_get?_reached h hd hx he
    have hsame : e.origin.same x.origin = true := by
      have hbound : e.name = x.name := (consistent_reached requests n).name_eq he
      exact hagree e x (mem_of_get?_reached he) (List.mem_of_getElem? hx) hbound hstands
    obtain ⟨e', he', houtline⟩ := hr.exists_get? he
    have horigin : e'.origin = e.origin := congrArg (·.2.1) houtline
    have horigin' : y.origin = x.origin := congrArg (·.2.1) hxy
    refine ⟨false, r, enter_of_standsFor (hname ▸ he') ?_, ?_⟩
    · rw [RuleEntry.standsFor, horigin, horigin', hsame, Bool.or_true]
    · rw [reached_max_of_get?_eq_some h hd hx he]
      exact hr

end Reached

end Registry

end ProseLinter
