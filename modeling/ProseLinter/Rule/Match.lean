import ProseLinter.Rule.Basic

/-!
# Scanning a document

Most rules look at the nodes of a type one by one: they search the part of the source that a node
spans, and report what they match there.

* `Match.finding` leads from a place in that part to the span in the source.
* `Rule.Context.scan` are the findings in all nodes of a type.
-/

namespace ProseLinter

/-- A part of a text that a rule matches: its byte offset and its characters, and what the rule has
to say of it. -/
structure Match where
  start : Nat
  chars : List Char
  text : String
  severity : Severity
deriving DecidableEq, Repr

/-- The finding for a match in the part of the source that a node spans. -/
def Match.finding (m : Match) (node : Node) : Finding :=
  ⟨node.span.part m.start (Text.byteLength m.chars), m.text, m.severity⟩

/-- The findings for what a search matches in the nodes of a type. -/
def Rule.Context.scan (c : Context) (type : NodeType) (search : List Char → List Match) :
    List Finding :=
  (c.document.ofType type).flatMap fun node => (search (node.raw c.source)).map (·.finding node)

end ProseLinter
