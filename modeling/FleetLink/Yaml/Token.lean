/-! The parts a settings file in YAML is made of. Nesting by indentation is made
explicit: blocks begin and end with tokens of their own, and keys are marked. -/

namespace FleetLink.Yaml

/-- A tag as it is written. The handle stands for the beginning of the tag; without one
the tag is written out. -/
structure Tag where
  handle : Option String
  suffix : String
deriving DecidableEq, Repr

/-- What stands in front of a document: the version it is written for, or what a handle
of tags stands for. Others mean nothing. -/
inductive Directive where
  | version (major : Int)
  | handle (name : String) (opening : String)
  | other
deriving DecidableEq, Repr

inductive Token where
  | directive (directive : Directive)
  | documentStart
  | documentEnd
  | blockList
  | blockDict
  | blockEnd
  | flowListStart
  | flowListEnd
  | flowDictStart
  | flowDictEnd
  | blockEntry
  | flowEntry
  | key
  | value
  | reference (name : String)
  | anchor (name : String)
  | tag (tag : Tag)
  | scalar (text : String) (plain : Bool)
deriving DecidableEq, Repr

end FleetLink.Yaml
