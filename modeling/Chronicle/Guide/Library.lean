import Chronicle.Guide.Document

/-!
# Guide libraries

The guides a service knows, by id, each with the fingerprint it had when it was added. A guide is
never replaced.
-/

namespace Chronicle

structure Volume where
  guide : Guide
  fingerprint : String

abbrev Library := Dict GuideId Volume

namespace Library

def guide? (l : Library) (id : GuideId) : Option Guide := (l.get? id).map (·.guide)

def fingerprint? (l : Library) (id : GuideId) : Option String := (l.get? id).map (·.fingerprint)

def add (l : Library) (g : Guide) : Except Guide.LoadError Library :=
  if l.contains g.id then .error (.duplicate g.id)
  else .ok (l.insert g.id ⟨g, g.fingerprint⟩)

def addAll (l : Library) (gs : List Guide) : Except Guide.LoadError Library :=
  gs.foldlM add l

end Library
end Chronicle
