import ProseLinter.Rule.Catalog
import ProseLinter.Rule.Pattern

/-!
# The rules of the library and pattern rules

The checks of these rules look at the document, its source and the options, and name the rule in
their errors. They look at nothing else of their context: neither at the severity that is forced on
the messages nor at the path of the file.

* `Rule.IsKnown.check_cases` : the four kinds of checks.
* `Rule.IsKnown.check_congr` : what the report of such a rule depends on.
-/

namespace ProseLinter.Rule

/-- The check of a rule is that of a rule of the library or of a pattern rule. -/
inductive IsKnown (rule : Rule) : Prop
  | bundled {package : String} {known : Rule} (h : Catalog.bundled.get? package = some known)
      (hcheck : rule.check = known.check)
  | pattern (p : PatternRule) (hcheck : rule.check = p.toRule.check)

namespace IsKnown

variable {rule : Rule}

/-- The check is that of one of the three rules of the library or of a pattern rule. -/
theorem check_cases (h : rule.IsKnown) :
    rule.check = NoTodo.rule.check ∨ rule.check = SentenceLength.rule.check ∨
      rule.check = NoDoubledWord.rule.check ∨ ∃ p : PatternRule, rule.check = p.toRule.check := by
  cases h with
  | @bundled package known h hcheck =>
    have hmem : known ∈ Catalog.bundled.rules.map (·.2) := by
      have hpair : (package, known) ∈ Catalog.bundled.rules := by
        rw [Catalog.get?, List.lookup_eq_some_iff] at h
        obtain ⟨before, after, hrules, -⟩ := h
        rw [hrules]
        exact List.mem_append_right before List.mem_cons_self
      exact List.mem_map_of_mem hpair
    simp only [Catalog.bundled, List.map_cons, List.map_nil, List.mem_cons, List.not_mem_nil,
      or_false] at hmem
    rcases hmem with rfl | rfl | rfl
    · exact .inl hcheck
    · exact .inr (.inl hcheck)
    · exact .inr (.inr (.inl hcheck))
  | pattern p hcheck => exact .inr (.inr (.inr ⟨p, hcheck⟩))

/-- What such a rule finds, and whether it fails, depends on the name of the rule, the document,
its source and the options only. -/
theorem check_congr (h : rule.IsKnown) {c c' : Context} (hname : c'.ruleId = c.ruleId)
    (hdocument : c'.document = c.document) (hsource : c'.source = c.source)
    (hoptions : c'.options = c.options) : rule.check c' = rule.check c := by
  obtain ⟨ruleId, document, source, lines, filePath, options, forced⟩ := c
  obtain ⟨ruleId', document', source', lines', filePath', options', forced'⟩ := c'
  cases hname
  cases hdocument
  cases hsource
  cases hoptions
  -- None of the four checks reads one of the other fields.
  rcases h.check_cases with hcheck | hcheck | hcheck | ⟨p, hcheck⟩ <;> rw [hcheck] <;> rfl

/-- What such a rule finds, and whether it fails, does not depend on the severity. -/
theorem check_eq (h : rule.IsKnown) (c : Context) (forced : Option Severity) :
    rule.check { c with forced } = rule.check c :=
  h.check_congr rfl rfl rfl rfl

end IsKnown

end ProseLinter.Rule
