import Chronicle.Digest.Sha256
import Chronicle.Guide.Validation
import Chronicle.Guide.Yaml
import Chronicle.Json.Text

/-!
# Guide documents

A guide is loaded from a document if the document reads as a guide that has no fatal issue. Its
fingerprint is the hash of its canonical text, so guides with equal fingerprints are, collisions
apart, equal.
-/

namespace Chronicle.Guide

def canonical (g : Guide) : String := Json.toText g

def fingerprint (g : Guide) : String := Digest.hexOfText g.canonical

inductive LoadError where
  /-- The file could not be read. -/
  | unreadable
  /-- The document is no guide. -/
  | unparsable
  | invalid (guide : GuideId) (issues : List Issue)
  | duplicate (guide : GuideId)
  deriving DecidableEq

/-- A guide as it is, unless an issue is fatal. -/
def checked (g : Guide) : Except LoadError Guide :=
  if g.fatalIssues.isEmpty then .ok g else .error (.invalid g.id g.fatalIssues)

/-- A guide that has been read, if it reads as one and no issue is fatal. -/
def loaded : Json.Reading Guide → Except LoadError Guide
  | .ok g => g.checked
  | .error _ => .error .unparsable

/-- Loads a guide from the text of a JSON document. -/
def ofJsonText (source : String) : Except LoadError Guide := loaded (Json.ofText source)

/-- Loads a guide from the text of a YAML document. -/
def ofYamlText (source : String) : Except LoadError Guide := loaded (ofYaml source)

def LoadError.message : LoadError → String
  | .unreadable => "failed to read guide"
  | .unparsable => "failed to parse guide"
  | .invalid g issues => s!"guide {g} is invalid: " ++ "; ".intercalate (issues.map (·.message))
  | .duplicate g => s!"duplicate guide id: {g}"

end Chronicle.Guide
