import Mathlib.Data.List.Forall2
import Mathlib.Data.Option.Basic
import ProseLinter.Proofs.Registry.Newcomers

/-!
# Registries with corresponding entries

Two runs of an engine may register different entries for the same rules: the rules may be loaded
anew, or be registered with other options. What such runs have in common is expressed by a relation
of entries that decides alike what stands for what. Requests for related entries, served on
registries with related entries, then end alike and leave registries with related entries.

One of the two registries may be ahead of the other by the first of the entries that are going to be
registered: serving all requests makes up for that.

* `Corresponds` : the same names in the same order, with related entries.
* `serve_ahead` : requests on two registries, one of which is ahead of the other.
* `Corresponds.serve` : requests on two corresponding registries.
-/

namespace ProseLinter

/-- A relation of entries that decides alike what stands for what. -/
structure RuleEntry.Congruence (R : RuleEntry → RuleEntry → Prop) : Prop where
  refl (x : RuleEntry) : R x x
  name_eq {x y : RuleEntry} (h : R x y) : x.name = y.name
  standsFor_eq {e e' x x' : RuleEntry} (he : R e e') (hx : R x x') :
    e.standsFor x = e'.standsFor x'

/-- Two requests are for related entries, or nothing was found for either for the same reason. -/
inductive Request.Corresponds (R : RuleEntry → RuleEntry → Prop) : Request → Request → Prop
  | ok {x y : RuleEntry} (h : R x y) : Corresponds R (.ok x) (.ok y)
  | error (err : LintError) : Corresponds R (.error err) (.error err)

/-- Two outcomes are both successes, the same error, or conflicts of related entries. -/
inductive EndsAlike (R : RuleEntry → RuleEntry → Prop) {α β : Type} :
    Except LintError α → Except LintError β → Prop
  | ok (a : α) (b : β) : EndsAlike R (.ok a) (.ok b)
  | error (err : LintError) : EndsAlike R (.error err) (.error err)
  | conflict {e e' x x' : RuleEntry} (he : R e e') (hx : R x x') :
    EndsAlike R (.error (.ruleConflict x.name e.origin x.origin))
      (.error (.ruleConflict x'.name e'.origin x'.origin))

/-- Of two outcomes that end alike, one is a success if the other is. -/
theorem EndsAlike.eq_ok_iff {R : RuleEntry → RuleEntry → Prop} {a b : Except LintError Unit}
    (h : EndsAlike R a b) : a = .ok () ↔ b = .ok () := by
  cases h <;> simp

namespace Registry

variable {R : RuleEntry → RuleEntry → Prop} {r r' : Registry}

/-- Two registries have the same names in the same order, with related entries. -/
structure Corresponds (R : RuleEntry → RuleEntry → Prop) (r r' : Registry) : Prop where
  names_eq : r.names = r'.names
  get?_rel (name : String) : Option.Rel R (r.get? name) (r'.get? name)

/-! ### Corresponding registries -/

theorem corresponds_refl (hR : RuleEntry.Congruence R) (r : Registry) : r.Corresponds R r where
  names_eq := rfl
  get?_rel name := by
    cases r.get? name with
    | none => exact .none
    | some e => exact .some (hR.refl e)

/-- A name that is free in a registry is free in a corresponding one. -/
theorem Corresponds.get?_eq_none (h : r.Corresponds R r') {name : String}
    (hn : r.get? name = none) : r'.get? name = none := by
  have hrel := h.get?_rel name
  rw [hn] at hrel
  cases hn' : r'.get? name with
  | none => rfl
  | some e => rw [hn'] at hrel; cases hrel

/-- The entry of a name has a related one in a corresponding registry. -/
theorem Corresponds.exists_get? (h : r.Corresponds R r') {name : String} {e : RuleEntry}
    (he : r.get? name = some e) : ∃ e', r'.get? name = some e' ∧ R e e' := by
  have hrel := h.get?_rel name
  rw [he] at hrel
  cases he' : r'.get? name with
  | none => rw [he'] at hrel; cases hrel
  | some e' =>
    rw [he'] at hrel
    cases hrel with
    | some hee' => exact ⟨e', rfl, hee'⟩

/-- Related entries can be appended to corresponding registries. -/
theorem Corresponds.append (hR : RuleEntry.Congruence R) (h : r.Corresponds R r')
    {x y : RuleEntry} (hxy : R x y) : (r.append x).Corresponds R (r'.append y) where
  names_eq := by rw [names_append, names_append, h.names_eq, hR.name_eq hxy]
  get?_rel name := by
    rw [get?_append, get?_append, hR.name_eq hxy]
    split
    · exact .some hxy
    · exact h.get?_rel name

/-- Related entries can be appended one after the other. -/
theorem Corresponds.appendAll (hR : RuleEntry.Congruence R) (h : r.Corresponds R r')
    {items items' : List RuleEntry} (hitems : List.Forall₂ R items items') :
    (r.appendAll items).Corresponds R (r'.appendAll items') := by
  induction hitems generalizing r r' with
  | nil => exact h
  | cons hxy _ ih =>
    rw [appendAll_cons, appendAll_cons]
    exact ih (h.append hR hxy)

/-! ### Serving -/

/-- Appending entries keeps the entries of all other names. -/
theorem get?_appendAll_of_forall_ne {items : List RuleEntry} {name : String}
    (h : ∀ x ∈ items, x.name ≠ name) : (r.appendAll items).get? name = r.get? name := by
  induction items generalizing r with
  | nil => rfl
  | cons x items ih =>
    rw [List.forall_mem_cons] at h
    rw [appendAll_cons, ih h.2, get?_append, if_neg h.1]

/-- The first newcomers do not change the entry of a name that is bound. -/
theorem get?_appendAll_of_prefix_newcomers {items first : List RuleEntry} {name : String}
    {e : RuleEntry} (hfirst : first <+: r.newcomers items) (he : r.get? name = some e) :
    (r.appendAll first).get? name = some e := by
  rw [get?_appendAll_of_forall_ne, he]
  -- A newcomer has a name that was free, and this one is bound.
  rintro x hx rfl
  obtain ⟨hfree, -⟩ := get?_find?_of_mem_newcomers (hfirst.subset hx)
  rw [hfree] at he
  cases he

/-- Related requests are served on two registries, of which the second corresponds to the first one
with some of the entries appended that the requests would append first. They end alike, and if they
succeed, the registries correspond; so they do if the second registry was not ahead at all. -/
theorem serve_ahead (hR : RuleEntry.Congruence R) {q q' : List Request}
    (hq : List.Forall₂ (Request.Corresponds R) q q') {first : List RuleEntry}
    (hfirst : first <+: r.newcomers (Request.found q))
    (hr : (r.appendAll first).Corresponds R r') :
    EndsAlike R (r.serve q).1 (r'.serve q').1 ∧
      ((r.serve q).1 = .ok () ∨ first = [] → (r.serve q).2.Corresponds R (r'.serve q').2) := by
  -- By induction on the requests; the entries by which the second registry is ahead are used up as
  -- the requests for them come.
  induction hq generalizing r r' first with
  | nil =>
    obtain rfl : first = [] := List.prefix_nil.1 hfirst
    exact ⟨.ok () (), fun _ => hr⟩
  | @cons q₀ q₀' rest rest' h₀ _ ih =>
    cases h₀ with
    | error err =>
      obtain rfl : first = [] := List.prefix_nil.1 hfirst
      exact ⟨.error err, fun _ => hr⟩
    | @ok x y hxy =>
      have hname : x.name = y.name := hR.name_eq hxy
      rw [Request.found] at hfirst
      cases hx : r.get? x.name with
      | some e =>
        -- The name is bound in both registries, and both decide alike.
        rw [newcomers_cons_of_get?_eq_some hx] at hfirst
        obtain ⟨e', he', hee'⟩ := hr.exists_get? (get?_appendAll_of_prefix_newcomers hfirst hx)
        have hdecide : e.standsFor x = e'.standsFor y := hR.standsFor_eq hee' hxy
        rw [hname] at he'
        cases hstands : e.standsFor x with
        | true =>
          rw [serve_cons_of_enter_eq_ok (enter_of_standsFor hx hstands),
            serve_cons_of_enter_eq_ok (enter_of_standsFor he' (hdecide ▸ hstands))]
          exact ih hfirst hr
        | false =>
          rw [serve_cons_of_enter_eq_error (enter_of_not_standsFor hx hstands),
            serve_cons_of_enter_eq_error (enter_of_not_standsFor he' (hdecide ▸ hstands))]
          refine ⟨.conflict hee' hxy, ?_⟩
          rintro (hok | rfl)
          · cases hok
          · exact hr
      | none =>
        rw [serve_cons_of_enter_eq_ok (enter_of_get?_eq_none hx)]
        rw [newcomers_cons_of_get?_eq_none hx] at hfirst
        cases first with
        | nil =>
          -- The name is free in both registries.
          have hy : r'.get? y.name = none := hr.get?_eq_none (hname ▸ hx)
          rw [serve_cons_of_enter_eq_ok (enter_of_get?_eq_none hy)]
          exact ih List.nil_prefix (hr.append hR hxy)
        | cons f first =>
          -- The second registry has the entry already, so it makes no difference to it.
          obtain ⟨rfl, hfirst⟩ := List.cons_prefix_cons.1 hfirst
          rw [appendAll_cons] at hr
          have hbound : (r.append f).get? f.name = some f := by rw [get?_append, if_pos rfl]
          obtain ⟨f', hf', hff'⟩ :=
            hr.exists_get? (get?_appendAll_of_prefix_newcomers hfirst hbound)
          rw [hname] at hf'
          have hstands : f'.standsFor y = true := by
            rw [← hR.standsFor_eq hff' hxy, standsFor_self]
          rw [serve_cons_of_enter_eq_ok (enter_of_standsFor hf' hstands)]
          obtain ⟨hends, hleft⟩ := ih hfirst hr
          exact ⟨hends, fun h => hleft (.inl (h.resolve_right (List.cons_ne_nil _ _)))⟩

/-- Related requests that are served on corresponding registries end alike and leave corresponding
registries. -/
theorem Corresponds.serve (hR : RuleEntry.Congruence R) (hr : r.Corresponds R r')
    {q q' : List Request} (hq : List.Forall₂ (Request.Corresponds R) q q') :
    EndsAlike R (r.serve q).1 (r'.serve q').1 ∧ (r.serve q).2.Corresponds R (r'.serve q').2 := by
  obtain ⟨hends, hleft⟩ := serve_ahead hR hq List.nil_prefix hr
  exact ⟨hends, hleft (.inr rfl)⟩

end Registry

end ProseLinter
