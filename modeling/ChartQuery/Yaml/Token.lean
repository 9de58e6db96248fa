import ChartQuery.Yaml.Property

/-!
# YAML tokens

A document as the marks and scalars that make it up.  Where a block collection
starts and ends and where a key starts is not written but follows from the
indentation and the colons; these places have tokens of their own.
-/

namespace ChartQuery.Yaml

/-- The two kinds of collections. -/
inductive Shape where
  | sequence
  | mapping
deriving DecidableEq

/-- A token. -/
inductive Token where
  | scalar (text : String) (plain : Bool)
  | alias (name : String)
  | anchor (name : String)
  | tag (written : Shorthand)
  /-- An opening bracket or brace. -/
  | flowStart (shape : Shape)
  /-- A closing bracket or brace. -/
  | flowEnd (shape : Shape)
  | comma
  | blockStart (shape : Shape)
  | blockEnd
  /-- The dash of an entry. -/
  | entry
  | key
  | value
  | documentStart
  | documentEnd
  | directive (directive : Directive)

end ChartQuery.Yaml
