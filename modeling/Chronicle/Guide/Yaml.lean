import Chronicle.Guide.Json
import Chronicle.Yaml.Shape

/-!
# Guides as YAML documents

A YAML document of a guide has the same members as a JSON document. Ids, names and titles are
texts even where they look like something else. That does not go for what a step does, nor for the
kind of an achievement: the core schema decides there.
-/

namespace Chronicle

open Yaml

def Step.shape : Shape := .record [("id", .text), ("next", .optionalText)] .any

def Scenario.shape : Shape :=
  .record [("id", .text), ("name", .text), ("side", .flag), ("implicit_start", .flag),
    ("steps", .list Step.shape)] .ignored

def LogEntry.shape : Shape := .record [("id", .text), ("text", .text)] .ignored

def LogSection.shape : Shape :=
  .record [("id", .text), ("title", .text), ("entries", .list LogEntry.shape),
    ("freeform", .flag)] .ignored

def Achievement.shape : Shape := .record [("id", .text), ("title", .text)] .any

def Guide.shape : Shape :=
  .record [("id", .text), ("name", .text), ("version", .count), ("min_compatible_version", .count),
    ("scenarios", .list Scenario.shape), ("log_sections", .list LogSection.shape),
    ("achievements", .list Achievement.shape), ("chaos_bags", .dict (.dict .count))] .ignored

def Guide.ofYaml (source : String) : Json.Reading Guide :=
  match Yaml.toDocument? Guide.shape source with
  | some d => Guide.ofDocument (.text 128) d
  | none => .error .grammar

end Chronicle
