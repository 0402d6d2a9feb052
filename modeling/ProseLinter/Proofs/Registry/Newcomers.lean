import ProseLinter.Config.Basic
import ProseLinter.Proofs.Registry.Requests

/-!
# What serving requests adds

Of the entries that are registered one after the other a registry takes those whose names were free,
each name once and in order: its newcomers. Serving requests therefore appends the newcomers among
the entries that were asked for, up to the request that fails if one does, and serving the same
requests again appends nothing.

* `serve_eq_ok` and `serve_eq_error` : the registry after serving requests, and what failed.
* `serve_again` : serving requests a second time ends as it did and changes nothing.
* `Consistent.entries_appendAll_newcomers` : newcomers are listed behind all others, in order.
* `names_appendAll_newcomers_empty` : from the empty registry on, each name is listed once, where it
  came first.
-/

namespace ProseLinter

/-- The entries that requests ask for, up to the first for which nothing was found. -/
def Request.found : List Request → List RuleEntry
  | .ok x :: rest => x :: found rest
  | _ => []

namespace Registry

/-- The registry with entries behind all others. -/
def appendAll (r : Registry) (items : List RuleEntry) : Registry :=
  items.foldl append r

/-- The entries whose names are free, of entries of one name only the first. -/
def newcomers (r : Registry) : List RuleEntry → List RuleEntry
  | [] => []
  | x :: rest =>
    match r.get? x.name with
    | some _ => r.newcomers rest
    | none => x :: (r.append x).newcomers rest

variable {r r' : Registry} {x : RuleEntry} {items : List RuleEntry}

theorem newcomers_cons_of_get?_eq_some {e : RuleEntry} (h : r.get? x.name = some e)
    (rest : List RuleEntry) : r.newcomers (x :: rest) = r.newcomers rest := by
  simp only [newcomers, h]

theorem newcomers_cons_of_get?_eq_none (h : r.get? x.name = none) (rest : List RuleEntry) :
    r.newcomers (x :: rest) = x :: (r.append x).newcomers rest := by
  simp only [newcomers, h]

@[simp]
theorem appendAll_nil (r : Registry) : r.appendAll [] = r :=
  rfl

@[simp]
theorem appendAll_cons (r : Registry) (x : RuleEntry) (rest : List RuleEntry) :
    r.appendAll (x :: rest) = (r.append x).appendAll rest :=
  rfl

/-! ### Newcomers -/

/-- A newcomer has a name that was free, and is the first entry of that name. -/
theorem get?_find?_of_mem_newcomers (h : x ∈ r.newcomers items) :
    r.get? x.name = none ∧ items.find? (·.name == x.name) = some x := by
  induction items generalizing r with
  | nil => cases h
  | cons y items ih =>
    cases hy : r.get? y.name with
    | some e =>
      rw [newcomers_cons_of_get?_eq_some hy] at h
      obtain ⟨hfree, hfind⟩ := ih h
      -- The head has a name that is taken, so it is not the name of the newcomer.
      have hne : y.name ≠ x.name := fun heq => by
        rw [heq, hfree] at hy
        cases hy
      exact ⟨hfree, by rw [List.find?_cons_of_neg (by simpa using hne), hfind]⟩
    | none =>
      rw [newcomers_cons_of_get?_eq_none hy] at h
      rcases List.mem_cons.1 h with rfl | h
      · exact ⟨hy, List.find?_cons_of_pos (by simp)⟩
      · obtain ⟨hfree, hfind⟩ := ih h
        rw [get?_append] at hfree
        split at hfree
        · cases hfree
        · next hne => exact ⟨hfree, by rw [List.find?_cons_of_neg (by simpa using hne), hfind]⟩

/-- Appending an entry leaves names free that are not its own. -/
theorem free_append (hfree : ∀ y ∈ items, r.get? y.name = none)
    (hx : x.name ∉ items.map (·.name)) : ∀ y ∈ items, (r.append x).get? y.name = none := by
  intro y hy
  have hne : x.name ≠ y.name := fun heq => hx (heq ▸ List.mem_map_of_mem hy)
  rw [get?_append, if_neg hne, hfree y hy]

/-- First entries of different names that are free come first among the newcomers. -/
theorem prefix_newcomers {first : List RuleEntry} (hfirst : first <+: items)
    (hfree : ∀ y ∈ first, r.get? y.name = none) (hnodup : (first.map (·.name)).Nodup) :
    first <+: r.newcomers items := by
  induction first generalizing r items with
  | nil => exact List.nil_prefix
  | cons y first ih =>
    obtain ⟨rest, rfl⟩ := hfirst
    rw [List.forall_mem_cons] at hfree
    rw [List.map_cons, List.nodup_cons] at hnodup
    rw [List.cons_append, newcomers_cons_of_get?_eq_none hfree.1, List.cons_prefix_cons]
    exact ⟨rfl, ih (List.prefix_append first rest) (free_append hfree.2 hnodup.1) hnodup.2⟩

/-- Registering entries extends a registry by the newcomers among them. -/
theorem extends_appendAll_newcomers (r : Registry) (items : List RuleEntry) :
    r.Extends (r.appendAll (r.newcomers items)) := by
  induction items generalizing r with
  | nil => exact .refl r
  | cons x items ih =>
    cases hx : r.get? x.name with
    | some e =>
      rw [newcomers_cons_of_get?_eq_some hx]
      exact ih r
    | none =>
      rw [newcomers_cons_of_get?_eq_none hx]
      exact (extends_append hx).trans (ih (r.append x))

/-- A consistent registry lists an entry that was appended under a free name behind the others. -/
theorem Consistent.entries_append (h : r.Consistent) (hx : r.get? x.name = none) :
    (r.append x).entries = r.entries ++ [x] := by
  have hsame : r.names.filterMap (r.append x).get? = r.names.filterMap r.get? :=
    List.filterMap_congr fun name hname => by
      obtain ⟨e, he⟩ := h.exists_get? hname
      rw [he, get?_append_of_get?_eq_some hx he]
  rw [entries, names_append, List.filterMap_append, hsame]
  simp [entries]

/-- Newcomers are listed behind all others, in order. -/
theorem Consistent.entries_appendAll_newcomers (h : r.Consistent) (items : List RuleEntry) :
    (r.appendAll (r.newcomers items)).entries = r.entries ++ r.newcomers items := by
  induction items generalizing r with
  | nil => simp [newcomers]
  | cons x items ih =>
    cases hx : r.get? x.name with
    | some e =>
      rw [newcomers_cons_of_get?_eq_some hx]
      exact ih h
    | none =>
      rw [newcomers_cons_of_get?_eq_none hx, appendAll_cons, ih (consistent_append h hx),
        h.entries_append hx, List.append_assoc]
      rfl

/-- Registering entries lists each name once, behind the names that were there. -/
theorem Consistent.names_appendAll_newcomers (h : r.Consistent) (items : List RuleEntry) :
    (r.appendAll (r.newcomers items)).names =
      (items.map (·.name)).foldl
        (fun out a => if out.any (· == a) then out else out ++ [a]) r.names := by
  induction items generalizing r with
  | nil => rfl
  | cons x items ih =>
    have hmem : r.names.any (· == x.name) = (r.get? x.name).isSome := by
      rw [← contains_eq_isSome_get?, Bool.eq_iff_iff, ← h.mem_names_iff]
      simp
    rw [List.map_cons, List.foldl_cons, hmem]
    cases hx : r.get? x.name with
    | some e =>
      rw [newcomers_cons_of_get?_eq_some hx, ih h]
      rfl
    | none =>
      rw [newcomers_cons_of_get?_eq_none hx, appendAll_cons, ih (consistent_append h hx)]
      rfl

/-- From the empty registry on, each name is listed once, where it came first. -/
theorem names_appendAll_newcomers_empty (items : List RuleEntry) :
    (empty.appendAll (empty.newcomers items)).names =
      ConfigOptions.firstOccurrences (· == ·) (items.map (·.name)) :=
  consistent_empty.names_appendAll_newcomers items

/-! ### Serving -/

/-- Accepting an entry is appending it if it is a newcomer. -/
theorem appendAll_newcomers_cons_of_enter {added : Bool} (h : r.enter x = .ok (added, r'))
    (rest : List RuleEntry) :
    r.appendAll (r.newcomers (x :: rest)) = r'.appendAll (r'.newcomers rest) := by
  obtain ⟨hx, -, rfl⟩ | ⟨⟨e, he, -⟩, -, rfl⟩ := enter_eq_ok_iff.1 h
  · rw [newcomers_cons_of_get?_eq_none hx, appendAll_cons]
  · rw [newcomers_cons_of_get?_eq_some he]

/-- Requests that were all served were for entries, of which the newcomers were appended. -/
theorem serve_eq_ok {requests : List Request} (h : r.serve requests = (.ok (), r')) :
    ∃ items, requests = items.map .ok ∧ r' = r.appendAll (r.newcomers items) := by
  induction requests generalizing r with
  | nil =>
    cases h
    exact ⟨[], rfl, rfl⟩
  | cons q rest ih =>
    cases q with
    | error e => cases h
    | ok x =>
      cases hx : r.enter x with
      | error e => rw [serve_cons_of_enter_eq_error hx] at h; cases h
      | ok out =>
        rw [serve_cons_of_enter_eq_ok hx] at h
        obtain ⟨items, rfl, rfl⟩ := ih h
        exact ⟨x :: items, rfl, (appendAll_newcomers_cons_of_enter hx items).symm⟩

/-- When requests fail, those before the one that failed were served, so that their newcomers were
appended: nothing was found for that one, or its entry is refused by the registry that is left. -/
theorem serve_eq_error {requests : List Request} {err : LintError}
    (h : r.serve requests = (.error err, r')) :
    ∃ before failed later, requests = before.map .ok ++ failed :: later ∧
      r.serve (before.map .ok) = (.ok (), r') ∧ r' = r.appendAll (r.newcomers before) ∧
      (failed = .error err ∨ ∃ x, failed = .ok x ∧ r'.enter x = .error err) := by
  induction requests generalizing r with
  | nil => cases h
  | cons q rest ih =>
    cases q with
    | error e =>
      cases h
      exact ⟨[], .error err, rest, rfl, rfl, rfl, .inl rfl⟩
    | ok x =>
      cases hx : r.enter x with
      | error e =>
        rw [serve_cons_of_enter_eq_error hx] at h
        cases h
        exact ⟨[], .ok x, rest, rfl, rfl, rfl, .inr ⟨x, rfl, hx⟩⟩
      | ok out =>
        rw [serve_cons_of_enter_eq_ok hx] at h
        obtain ⟨before, failed, later, rfl, hserved, rfl, hfailed⟩ := ih h
        have happend := appendAll_newcomers_cons_of_enter hx before
        exact ⟨x :: before, failed, later, rfl,
          (serve_cons_of_enter_eq_ok hx (before.map .ok)).trans hserved, happend.symm, hfailed⟩

/-- A single request that fails changes nothing. -/
theorem eq_of_serve_singleton_eq_error {q : Request} {err : LintError}
    (h : r.serve [q] = (.error err, r')) : r' = r := by
  cases q with
  | error e =>
    cases h
    rfl
  | ok x =>
    cases hx : r.enter x with
    | error e =>
      rw [serve_cons_of_enter_eq_error hx] at h
      cases h
      rfl
    | ok out =>
      rw [serve_cons_of_enter_eq_ok hx] at h
      cases h

/-- Serving requests a second time ends as the first time and changes nothing. -/
theorem serve_again (r : Registry) (requests : List Request) :
    (r.serve requests).2.serve requests = r.serve requests := by
  induction requests generalizing r with
  | nil => rfl
  | cons q rest ih =>
    cases q with
    | error e => rfl
    | ok x =>
      cases hx : r.enter x with
      | error e =>
        rw [serve_cons_of_enter_eq_error hx]
        exact serve_cons_of_enter_eq_error hx rest
      | ok out =>
        rw [serve_cons_of_enter_eq_ok hx]
        -- What the first request was for is provided by now, so it is accepted without a change.
        have hprovided : (out.2.serve rest).2.Provides x :=
          (provides_of_enter hx).mono (extends_serve out.2 rest)
        rw [serve_cons_of_enter_eq_ok hprovided.enter_eq, ih]

/-! ### What was found -/

theorem found_map_prefix (requests : List Request) :
    (Request.found requests).map .ok <+: requests := by
  induction requests with
  | nil => exact List.nil_prefix
  | cons q rest ih =>
    cases q with
    | error e => exact List.nil_prefix
    | ok x => exact List.prefix_cons_inj _ |>.2 ih

end Registry

end ProseLinter
