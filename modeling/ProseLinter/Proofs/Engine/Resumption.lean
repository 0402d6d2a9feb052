import ProseLinter.Proofs.Engine.Options
import ProseLinter.Proofs.Engine.Sources

/-!
# Setting up again after a failure

Setting up may fail halfway, and what was registered until then stays. When the cause of the failure
is gone and the same rules come first again, setting up once more makes up for the rest: it ends as
if it had succeeded at once, with the same names in the same order, the same origins and the same
options. The rules themselves may be those of the first attempt, which were not loaded again.

* `IsFirstMade.twin` : entries that an engine makes first for one name and one origin differ only in
  what their rules do.
* `setUp_resumes` : setting up again after a failure.
-/

namespace ProseLinter

/-- Two entries have one name and one origin. -/
structure RuleEntry.SameKey (x y : RuleEntry) : Prop where
  name_eq : x.name = y.name
  origin_same : x.origin.same y.origin = true

/-- Two entries differ at most in what their rules do and in how their origin is written. -/
structure RuleEntry.Twin (x y : RuleEntry) : Prop extends RuleEntry.SameKey x y where
  option_eq : x.option = y.option
  tag_eq : x.rule.tag = y.rule.tag

/-- Whether an entry stands for another depends on nothing in which twins differ. -/
theorem RuleEntry.congruence_twin : RuleEntry.Congruence RuleEntry.Twin where
  refl x := ⟨⟨rfl, Origin.same_refl _⟩, rfl, rfl⟩
  name_eq h := h.name_eq
  standsFor_eq {e e' x x'} he hx := by
    have hobject : e.rule.sameObject x.rule = e'.rule.sameObject x'.rule := by
      rw [Rule.sameObject, Rule.sameObject, he.tag_eq, hx.tag_eq]
    have horigin : e.origin.same x.origin = e'.origin.same x'.origin :=
      Origin.same_congr he.origin_same hx.origin_same
    rw [RuleEntry.standsFor, RuleEntry.standsFor, hobject, horigin]

theorem Origin.isPlugin_eq_of_same {o o' : Origin} (h : o.same o' = true) :
    o.isPlugin = o'.isPlugin := by
  cases o <;> cases o' <;> first | rfl | cases h

namespace Engine

variable {files : FileTree} {e : Engine} {r : Registry} {x y : RuleEntry}

/-- The engine with another base directory. -/
def withBase (e : Engine) (base? : Option Path) : Engine :=
  { e with config := { e.config with rulesBaseDirectory := base? } }

/-- An entry as an engine makes it, and if it is for an object, then for the first one of its name
that was added. -/
structure IsFirstMade (e : Engine) (x : RuleEntry) : Prop extends e.IsMade x where
  find?_objects (h : x.origin = .object) : e.objects.find? (·.name == x.name) = some x

/-- The entries that are registered are the first ones that are made for their names. -/
theorem isFirstMade_of_mem_newcomers {items : List RuleEntry}
    (hitems : items.map .ok <+: e.requests files) (hx : x ∈ r.newcomers items) :
    e.IsFirstMade x := by
  obtain ⟨-, hfind⟩ := Registry.get?_find?_of_mem_newcomers hx
  have hmem : .ok x ∈ e.requests files :=
    hitems.subset (List.mem_map_of_mem (List.mem_of_find?_eq_some hfind))
  exact ⟨isMade_of_mem_requests hmem, fun horigin => find?_objects hitems horigin hfind⟩

/-- What an engine makes of a rule depends on where it looks only through what it finds. -/
theorem isFirstMade_withBase_iff {base? : Option Path} :
    (e.withBase base?).IsFirstMade x ↔ e.IsFirstMade x :=
  ⟨fun ⟨⟨h₁, h₂, h₃, h₄⟩, h₅⟩ => ⟨⟨h₁, h₂, h₃, h₄⟩, h₅⟩,
    fun ⟨⟨h₁, h₂, h₃, h₄⟩, h₅⟩ => ⟨⟨h₁, h₂, h₃, h₄⟩, h₅⟩⟩

/-- The first entries that an engine makes for one name and one origin are twins: both have the
option that the engine gives to them, and both rules are new objects, the one rule of a package, or
the one object that was added first. -/
theorem IsFirstMade.twin (hx : e.IsFirstMade x) (hy : e.IsFirstMade y) (h : x.SameKey y) :
    x.Twin y where
  toSameKey := h
  option_eq := by
    rw [hx.option_eq, hy.option_eq, givenOption, givenOption, h.name_eq,
      Origin.isPlugin_eq_of_same h.origin_same]
  tag_eq := by
    -- Origins of different kinds are not the same, which leaves one case for each kind.
    have hsame := h.origin_same
    cases hxo : x.origin <;> cases hyo : y.origin <;> rw [hxo, hyo] at hsame <;>
      try cases hsame
    case bundled.bundled package package' =>
      obtain rfl : package = package' := by simpa [Origin.same] using hsame
      have hrule := (hx.get?_of_bundled hxo).symm.trans (hy.get?_of_bundled hyo)
      rw [Option.some.inj hrule]
    case file.file => rw [hx.tag_of_file hxo, hy.tag_of_file hyo]
    case plugin.plugin => rw [hx.tag_of_plugin hxo, hy.tag_of_plugin hyo]
    case object.object =>
      have hfind := hx.find?_objects hxo
      rw [h.name_eq, hy.find?_objects hyo] at hfind
      rw [Option.some.inj hfind]

/-- Entries that are twins one by one. -/
theorem forall₂_twin {first new : List RuleEntry} (h : List.Forall₂ RuleEntry.SameKey first new)
    (hfirst : ∀ x ∈ first, e.IsFirstMade x) (hnew : ∀ y ∈ new, e.IsFirstMade y) :
    List.Forall₂ RuleEntry.Twin first new := by
  induction h with
  | nil => exact .nil
  | cons hxy _ ih =>
    rw [List.forall_mem_cons] at hfirst hnew
    exact .cons (hfirst.1.twin hnew.1 hxy) (ih hfirst.2 hnew.2)

/-! ### Setting up again -/

/-- The first entries that setting an engine up on a registry would register have the names and
origins of the given ones. -/
def ComeFirst (files : FileTree) (e : Engine) (r : Registry) (items : List RuleEntry) : Prop :=
  ∃ first, first <+: r.newcomers (Request.found (e.requests files)) ∧
    List.Forall₂ RuleEntry.SameKey first items

/-- So it is when the first entries that the engine asks for have these names and origins, and the
names are different and free. -/
theorem comeFirst_of_found {first items : List RuleEntry}
    (hfirst : first <+: Request.found (e.requests files))
    (hsame : List.Forall₂ RuleEntry.SameKey first items)
    (hfree : ∀ x ∈ items, r.get? x.name = none) (hnodup : (items.map (·.name)).Nodup) :
    e.ComeFirst files r items := by
  have hnames : first.map (·.name) = items.map (·.name) := by
    rw [← List.forall₂_eq_eq_eq, List.forall₂_map_left_iff, List.forall₂_map_right_iff]
    exact hsame.imp fun _ _ h => h.name_eq
  refine ⟨first, Registry.prefix_newcomers hfirst (fun x hx => ?_) (hnames ▸ hnodup), hsame⟩
  have hname : x.name ∈ items.map (·.name) := hnames ▸ List.mem_map_of_mem hx
  obtain ⟨y, hy, heq⟩ := List.mem_map.1 hname
  rw [← heq, hfree y hy]

/-- What a failed attempt to set an engine up leaves: the engine as it was, and the registry with
entries that the engine makes first for their names. -/
theorem exists_of_exec_setUp_eq_error {s : State} {err : LintError}
    (h : exec (setUp files) ⟨e, r⟩ = (.error err, s)) :
    e.isSetUp = false ∧ ∃ items, items.map .ok <+: e.requests files ∧
      s = ⟨e, r.appendAll (r.newcomers items)⟩ := by
  cases he : e.isSetUp with
  | true =>
    rw [exec_setUp_of_isSetUp (s := ⟨e, r⟩) he] at h
    cases h
  | false =>
    refine ⟨rfl, ?_⟩
    rcases hserve : r.serve (e.requests files) with ⟨err' | ⟨⟩, r'⟩
    · rw [exec_setUp_of_serve_error he hserve] at h
      cases h
      obtain ⟨items, failed, later, hrequests, -, rfl, -⟩ := Registry.serve_eq_error hserve
      exact ⟨items, ⟨failed :: later, hrequests.symm⟩, rfl⟩
    · rw [exec_setUp_of_serve_ok he hserve] at h
      cases h

/-- Serving the requests of an engine on a registry that has the first entries already ends as on
the registry without them. -/
theorem ComeFirst.serve {items : List RuleEntry} (h : e.ComeFirst files r items)
    (hitems : ∀ x ∈ items, e.IsFirstMade x) :
    EndsAlike RuleEntry.Twin (r.serve (e.requests files)).1
        ((r.appendAll items).serve (e.requests files)).1 ∧
      ((r.serve (e.requests files)).1 = .ok () →
        (r.serve (e.requests files)).2.Corresponds RuleEntry.Twin
          ((r.appendAll items).serve (e.requests files)).2) := by
  obtain ⟨first, hbegin, hsame⟩ := h
  -- The registry is ahead by twins of the first entries that the requests would append.
  have hfirst : ∀ x ∈ first, e.IsFirstMade x := fun x hx =>
    isFirstMade_of_mem_newcomers (Registry.found_map_prefix _) (hbegin.subset hx)
  have hahead : (r.appendAll first).Corresponds RuleEntry.Twin (r.appendAll items) :=
    (Registry.corresponds_refl RuleEntry.congruence_twin r).appendAll RuleEntry.congruence_twin
      (forall₂_twin hsame hfirst hitems)
  have hrequests : List.Forall₂ (Request.Corresponds RuleEntry.Twin) (e.requests files)
      (e.requests files) :=
    forall₂_requests files RuleEntry.congruence_twin (relates_self RuleEntry.congruence_twin e)
  obtain ⟨hends, hleft⟩ :=
    Registry.serve_ahead RuleEntry.congruence_twin hrequests hbegin hahead
  exact ⟨hends, fun hok => hleft (.inl hok)⟩

/-- On a registry that has the first entries already an engine is set up exactly if it is on the
registry without them. -/
theorem ComeFirst.exec_setUp_iff {items : List RuleEntry} (h : e.ComeFirst files r items)
    (hitems : ∀ x ∈ items, e.IsFirstMade x) (he : e.isSetUp = false) :
    (exec (setUp files) ⟨e, r.appendAll items⟩).1 = .ok () ↔
      (exec (setUp files) ⟨e, r⟩).1 = .ok () := by
  obtain ⟨hends, -⟩ := h.serve hitems
  rw [exec_setUp_fst he, exec_setUp_fst he]
  exact hends.eq_ok_iff.symm

/-- On a registry that has the first entries already a call that sets the engine up leads to the same
engine as on the registry without them, and to a registry with twin entries. -/
theorem ComeFirst.call_corresponds {items : List RuleEntry} (h : e.ComeFirst files r items)
    (hitems : ∀ x ∈ items, e.IsFirstMade x) (he : e.isSetUp = false) {c : Call} (hc : c ≠ .reset)
    (hok : (exec (setUp files) ⟨e, r⟩).1 = .ok ()) :
    EndsAlike RuleEntry.Twin (exec (c.step files) ⟨e, r⟩).1
        (exec (c.step files) ⟨e, r.appendAll items⟩).1 ∧
      (exec (c.step files) ⟨e, r.appendAll items⟩).2.engine =
        (exec (c.step files) ⟨e, r⟩).2.engine ∧
      (exec (c.step files) ⟨e, r⟩).2.registry.Corresponds RuleEntry.Twin
        (exec (c.step files) ⟨e, r.appendAll items⟩).2.registry := by
  obtain ⟨hends, hleft⟩ := h.serve hitems
  rw [exec_setUp_fst he] at hok
  have hok' := hends.eq_ok_iff.1 hok
  rw [exec_call_of_exec_setUp hc (exec_setUp_of_serve_ok he (Prod.ext hok rfl)),
    exec_call_of_exec_setUp hc (exec_setUp_of_serve_ok he (Prod.ext hok' rfl))]
  -- Both are set up by now, and go on from corresponding registries.
  exact Engine.call_corresponds RuleEntry.congruence_twin (hleft hok) _ c

/-! ### An engine with one rule and one directory -/

/-- An engine of a configuration with one rule and one directory. -/
def todoDirectoryEngine : Engine :=
  { todoEngine with config := { rules := ["no-todo"], rulePaths := [⟨"r"⟩] } }

/-- Without the directory the engine asks for the rule and finds no more. -/
theorem exists_requests_todoDirectoryEngine :
    ∃ err, todoDirectoryEngine.requests ⟨[], []⟩ = [.ok todoEntry, .error err] := by
  have hmissing : (Resolver.resolveDirectory ⟨[], []⟩ ⟨"r"⟩).isOk = false := by decide +kernel
  cases hall : Resolver.resolveDirectory ⟨[], []⟩ ⟨"r"⟩ with
  | ok all =>
    rw [hall] at hmissing
    cases hmissing
  | error err =>
    refine ⟨err, ?_⟩
    change todoEngine.ruleRequest ⟨[], []⟩ (.ofText "no-todo") ::
      (todoDirectoryEngine.directoryRequests ⟨[], []⟩ ⟨"r"⟩ ++ [] ++ [] ++ []) = _
    rw [ruleRequest_todoEngine, directoryRequests, hall]
    rfl

/-- With the directory, which has no modules, it asks for the rule only. -/
theorem requests_todoDirectoryEngine :
    todoDirectoryEngine.requests ⟨[(["r"], .directory)], []⟩ = [.ok todoEntry] := by
  have hchildren : FileTree.children ⟨[(["r"], .directory)], []⟩ ⟨"r"⟩ = .ok [] := by
    decide +kernel
  have hall : Resolver.resolveDirectory ⟨[(["r"], .directory)], []⟩ ⟨"r"⟩ = .ok [] := by
    rw [Resolver.resolveDirectory, Resolver.moduleFiles, hchildren]
    change List.mapM _ (List.mergeSort [] _) = _
    rw [List.mergeSort_nil]
    rfl
  change todoEngine.ruleRequest _ (.ofText "no-todo") ::
    (todoDirectoryEngine.directoryRequests _ ⟨"r"⟩ ++ [] ++ [] ++ []) = _
  rw [ruleRequest_todoEngine, directoryRequests, hall]
  rfl

/-! ### After a failure -/

/-- Setting an engine up failed, and what it registered until then has the names and origins of the
first entries that the engine would register now: the files and the base directory may have changed
in between. Then setting it up again succeeds exactly if it would succeed on the registry from
before the failure, and a call that sets it up again ends as it would there: it leaves the same
engine, and the same names in the same order, with the same origins and the same options. -/
theorem setUp_resumes {files files' : FileTree} {e : Engine} {r : Registry} {s : State}
    {err : LintError} {base? : Option Path} {new : List RuleEntry} (hr : r.Consistent)
    (hfailed : exec (setUp files) ⟨e, r⟩ = (.error err, s))
    (hnew : s.registry.entries = r.entries ++ new)
    (hfirst : (e.withBase base?).ComeFirst files' r new) :
    let again : State := ⟨s.engine.withBase base?, s.registry⟩
    let fresh : State := ⟨e.withBase base?, r⟩
    ((exec (setUp files') again).1 = .ok () ↔ (exec (setUp files') fresh).1 = .ok ()) ∧
      ∀ c : Call, c ≠ .reset → (exec (setUp files') again).1 = .ok () →
        EndsAlike RuleEntry.Twin (exec (c.step files') fresh).1 (exec (c.step files') again).1 ∧
          (exec (c.step files') again).2.engine = (exec (c.step files') fresh).2.engine ∧
          (exec (c.step files') fresh).2.registry.Corresponds RuleEntry.Twin
            (exec (c.step files') again).2.registry := by
  intro again fresh
  obtain ⟨he, items, hitems, rfl⟩ := exists_of_exec_setUp_eq_error hfailed
  -- What was new after the failure are the newcomers of the requests that were served.
  obtain rfl : r.newcomers items = new :=
    List.append_cancel_left ((hr.entries_appendAll_newcomers items).symm.trans hnew)
  have hmade : ∀ x ∈ r.newcomers items, (e.withBase base?).IsFirstMade x := fun x hx =>
    isFirstMade_withBase_iff.2 (isFirstMade_of_mem_newcomers hitems hx)
  have hiff : (exec (setUp files') again).1 = .ok () ↔ (exec (setUp files') fresh).1 = .ok () :=
    hfirst.exec_setUp_iff hmade he
  refine ⟨hiff, fun c hc hok => ?_⟩
  exact hfirst.call_corresponds hmade he hc (hiff.1 hok)

/-- The engine fails without the directory and is set up again once the directory is there. -/
theorem todoDirectoryEngine_resumes :
    ∃ err s, Registry.empty.Consistent ∧
      exec (setUp ⟨[], []⟩) ⟨todoDirectoryEngine, .empty⟩ = (.error err, s) ∧
      s.registry.entries = Registry.empty.entries ++ [todoEntry] ∧
      (todoDirectoryEngine.withBase none).ComeFirst ⟨[(["r"], .directory)], []⟩ .empty
        [todoEntry] ∧
      (exec (setUp ⟨[(["r"], .directory)], []⟩) ⟨s.engine.withBase none, s.registry⟩).1 =
        .ok () := by
  obtain ⟨err, hrequests⟩ := exists_requests_todoDirectoryEngine
  have hfree : Registry.empty.get? todoEntry.name = none := Registry.get?_empty _
  have henter := Registry.enter_of_get?_eq_none hfree
  have hfailed : exec (setUp ⟨[], []⟩) ⟨todoDirectoryEngine, .empty⟩ =
      (.error err, ⟨todoDirectoryEngine, Registry.empty.append todoEntry⟩) := by
    refine exec_setUp_of_serve_error rfl ?_
    rw [hrequests, Registry.serve_cons_of_enter_eq_ok henter]
    rfl
  have hnew : (Registry.empty.append todoEntry).entries = Registry.empty.entries ++ [todoEntry] :=
    Registry.consistent_empty.entries_append hfree
  have hfirst : (todoDirectoryEngine.withBase none).ComeFirst ⟨[(["r"], .directory)], []⟩ .empty
      [todoEntry] := by
    refine @comeFirst_of_found _ _ _ [todoEntry] _ ?_ (.cons ⟨rfl, Origin.same_refl _⟩ .nil)
      (List.forall_mem_singleton.2 hfree) (List.nodup_singleton _)
    change _ <+: Request.found (todoDirectoryEngine.requests ⟨[(["r"], .directory)], []⟩)
    rw [requests_todoDirectoryEngine]
    exact List.prefix_refl _
  have hfresh : (exec (setUp ⟨[(["r"], .directory)], []⟩)
      ⟨todoDirectoryEngine.withBase none, .empty⟩).1 = .ok () := by
    rw [exec_setUp_fst rfl]
    change (Registry.empty.serve
      (todoDirectoryEngine.requests ⟨[(["r"], .directory)], []⟩)).1 = _
    rw [requests_todoDirectoryEngine, Registry.serve_cons_of_enter_eq_ok henter]
    rfl
  obtain ⟨hiff, -⟩ := setUp_resumes Registry.consistent_empty hfailed hnew hfirst
  exact ⟨err, _, Registry.consistent_empty, hfailed, hnew, hfirst, hiff.2 hfresh⟩

end Engine

end ProseLinter
