import Mathlib.Data.List.Basic
import ProseLinter.Proofs.Registry.Consistent

/-!
# Requests

What an engine wants of a registry is a list of requests: each is an entry to be registered, or the
reason why nothing was found to register. The requests are served in order, up to the first that
failed or is refused.

* `serve_append` : requests are served one part after the other.
* `extends_serve` : serving requests, even when it fails, only adds names behind the others.
* `provides_of_serve` : requests that were all served are provided by the registry they leave.
-/

namespace ProseLinter

/-- An entry to be registered, or why there is none. -/
abbrev Request := Except LintError RuleEntry

namespace Registry

/-- Serves requests in order, up to the first that failed or is refused. -/
def serve (r : Registry) : List Request → Except LintError Unit × Registry
  | [] => (.ok (), r)
  | .error e :: _ => (.error e, r)
  | .ok x :: rest =>
    match r.enter x with
    | .ok (_, r) => r.serve rest
    | .error e => (.error e, r)

/-- The name of the entry is bound to an entry that stands for it. -/
def Provides (r : Registry) (x : RuleEntry) : Prop :=
  ∃ e, r.get? x.name = some e ∧ e.standsFor x = true

/-- Among the entries of a registry is one that stands for the given one, under its name. -/
def Lists (r : Registry) (x : RuleEntry) : Prop :=
  ∃ e ∈ r.entries, e.name = x.name ∧ e.standsFor x = true

/-- The second registry keeps the order of the first and all its entries, and if the order and the
entries of the first belong together, then so do those of the second. -/
structure Extends (r r' : Registry) : Prop where
  names_prefix : r.names <+: r'.names
  get?_eq {name : String} {e : RuleEntry} (h : r.get? name = some e) : r'.get? name = some e
  consistent (h : r.Consistent) : r'.Consistent

/-! ### Extension -/

theorem Extends.refl (r : Registry) : r.Extends r where
  names_prefix := List.prefix_refl _
  get?_eq h := h
  consistent h := h

theorem Extends.trans {r r' r'' : Registry} (h : r.Extends r') (h' : r'.Extends r'') :
    r.Extends r'' where
  names_prefix := h.names_prefix.trans h'.names_prefix
  get?_eq he := h'.get?_eq (h.get?_eq he)
  consistent hr := h'.consistent (h.consistent hr)

/-- Appending an entry under a free name extends a registry. -/
theorem extends_append {r : Registry} {x : RuleEntry} (hx : r.get? x.name = none) :
    r.Extends (r.append x) where
  names_prefix := List.prefix_append _ _
  get?_eq he := get?_append_of_get?_eq_some hx he
  consistent h := consistent_append h hx

/-- A registration that is accepted extends the registry. -/
theorem extends_enter {r r' : Registry} {x : RuleEntry} {added : Bool}
    (h : r.enter x = .ok (added, r')) : r.Extends r' := by
  obtain ⟨hx, -, rfl⟩ | ⟨-, -, rfl⟩ := enter_eq_ok_iff.1 h
  · exact extends_append hx
  · exact Extends.refl _

/-- An entry that a registry provides is provided by every extension. -/
theorem Provides.mono {r r' : Registry} {x : RuleEntry} (h : r.Provides x) (hr : r.Extends r') :
    r'.Provides x := by
  obtain ⟨e, he, hx⟩ := h
  exact ⟨e, hr.get?_eq he, hx⟩

/-- A consistent registry lists what it provides. -/
theorem Consistent.lists_iff {r : Registry} (h : r.Consistent) (x : RuleEntry) :
    r.Lists x ↔ r.Provides x := by
  constructor
  · rintro ⟨e, he, hname, hx⟩
    obtain ⟨name, -, hget⟩ := List.mem_filterMap.1 he
    obtain rfl : name = x.name := (h.name_eq hget).symm.trans hname
    exact ⟨e, hget, hx⟩
  · rintro ⟨e, hget, hx⟩
    have hmem : x.name ∈ r.names := by
      rw [h.mem_names_iff, contains_eq_isSome_get?, hget, Option.isSome_some]
    exact ⟨e, List.mem_filterMap.2 ⟨x.name, hmem, hget⟩, h.name_eq hget, hx⟩

/-- The entries of an extension follow those of the registry. -/
theorem Extends.entries_prefix {r r' : Registry} (h : r.Extends r') (hr : r.Consistent) :
    r.entries <+: r'.entries := by
  obtain ⟨new, hnew⟩ := h.names_prefix
  -- The old names have their entries still, so listing them gives what it gave before.
  have hold : r.names.filterMap r'.get? = r.entries := by
    refine List.filterMap_congr fun name hname => ?_
    obtain ⟨e, he⟩ := hr.exists_get? hname
    rw [he, h.get?_eq he]
  refine ⟨new.filterMap r'.get?, ?_⟩
  rw [← hold, ← List.filterMap_append, hnew, entries]

/-- An entry stands for itself. -/
theorem standsFor_self (x : RuleEntry) : x.standsFor x = true := by
  simp [RuleEntry.standsFor]

/-- An entry that was accepted is provided. -/
theorem provides_of_enter {r r' : Registry} {x : RuleEntry} {added : Bool}
    (h : r.enter x = .ok (added, r')) : r'.Provides x := by
  obtain ⟨-, -, rfl⟩ | ⟨hx, -, rfl⟩ := enter_eq_ok_iff.1 h
  · exact ⟨x, by rw [get?_append, if_pos rfl], standsFor_self x⟩
  · exact hx

/-- Registering what is provided changes nothing. -/
theorem Provides.enter_eq {r : Registry} {x : RuleEntry} (h : r.Provides x) :
    r.enter x = .ok (false, r) := by
  obtain ⟨e, he, hx⟩ := h
  exact enter_of_standsFor he hx

/-! ### Serving -/

theorem serve_cons_of_enter_eq_ok {r r' : Registry} {x : RuleEntry} {added : Bool}
    (h : r.enter x = .ok (added, r')) (rest : List Request) :
    r.serve (.ok x :: rest) = r'.serve rest := by
  simp only [serve, h]

theorem serve_cons_of_enter_eq_error {r : Registry} {x : RuleEntry} {e : LintError}
    (h : r.enter x = .error e) (rest : List Request) :
    r.serve (.ok x :: rest) = (.error e, r) := by
  simp only [serve, h]

/-- Requests are served one part after the other, the second part only if the first succeeded. -/
theorem serve_append (r : Registry) (first second : List Request) :
    r.serve (first ++ second) =
      match r.serve first with
      | (.ok _, r') => r'.serve second
      | (.error e, r') => (.error e, r') := by
  induction first generalizing r with
  | nil => rfl
  | cons q first ih =>
    cases q with
    | error e => rfl
    | ok x =>
      rw [List.cons_append]
      cases h : r.enter x with
      | error e => rw [serve_cons_of_enter_eq_error h, serve_cons_of_enter_eq_error h]
      | ok out => rw [serve_cons_of_enter_eq_ok h, serve_cons_of_enter_eq_ok h, ih]

/-- Registering entries is serving the requests for them. -/
theorem enterAll_eq_serve (r : Registry) (items : List RuleEntry) :
    r.enterAll items = r.serve (items.map .ok) := by
  induction items generalizing r with
  | nil => rfl
  | cons x items ih =>
    rw [List.map_cons, enterAll]
    cases h : r.enter x with
    | error e => rw [serve_cons_of_enter_eq_error h]
    | ok out => rw [serve_cons_of_enter_eq_ok h, ← ih]

/-- Serving requests extends the registry, up to the request that fails if one does. -/
theorem extends_serve (r : Registry) (requests : List Request) :
    r.Extends (r.serve requests).2 := by
  induction requests generalizing r with
  | nil => exact Extends.refl r
  | cons q rest ih =>
    cases q with
    | error e => exact Extends.refl r
    | ok x =>
      cases h : r.enter x with
      | error e => rw [serve_cons_of_enter_eq_error h]; exact Extends.refl r
      | ok out => rw [serve_cons_of_enter_eq_ok h]; exact (extends_enter h).trans (ih out.2)

/-- A single request is served when it is for an entry that is accepted. -/
theorem serve_singleton_eq_ok_iff {r r' : Registry} {q : Request} :
    r.serve [q] = (.ok (), r') ↔ ∃ x added, q = .ok x ∧ r.enter x = .ok (added, r') := by
  constructor
  · intro h
    cases q with
    | error e => cases h
    | ok x =>
      cases hx : r.enter x with
      | error e => rw [serve_cons_of_enter_eq_error hx] at h; cases h
      | ok out =>
        rw [serve_cons_of_enter_eq_ok hx] at h
        cases h
        exact ⟨x, out.1, rfl, hx⟩
  · rintro ⟨x, added, rfl, hx⟩
    rw [serve_cons_of_enter_eq_ok hx, serve]

/-- When all requests were served, each was for an entry, which the registry provides. -/
theorem provides_of_serve {r r' : Registry} {requests : List Request}
    (h : r.serve requests = (.ok (), r')) : ∀ q ∈ requests, ∃ x, q = .ok x ∧ r'.Provides x := by
  induction requests generalizing r with
  | nil => simp
  | cons q rest ih =>
    cases q with
    | error e => cases h
    | ok x =>
      cases hx : r.enter x with
      | error e => rw [serve_cons_of_enter_eq_error hx] at h; cases h
      | ok out =>
        rw [serve_cons_of_enter_eq_ok hx] at h
        have hout : out.2.Extends r' := by simpa [h] using extends_serve out.2 rest
        intro q hq
        rcases List.mem_cons.1 hq with rfl | hq
        · exact ⟨x, rfl, (provides_of_enter hx).mono hout⟩
        · exact ih h q hq

end Registry

end ProseLinter
