import Chronicle.Journal.Basic
import Chronicle.Json.Codec

/-!
# Setups as JSON
-/

namespace Chronicle

open Json

def Investigator.ofDocument (o : Origin) (d : Document) : Reading Investigator :=
  gather o ["id", "name", "health", "sanity"] d fun f =>
    Investigator.mk <$> f.need "id" <*> f.need "name" <*> f.need "health" <*> f.need "sanity"

instance : Codec Investigator where
  encode i := .obj [("id", encode i.id), ("name", encode i.name), ("health", encode i.health),
    ("sanity", encode i.sanity)]
  decode := Investigator.ofDocument

def Setup.ofDocument (o : Origin) (d : Document) : Reading Setup :=
  gather o ["name", "guide_id", "guide_version", "difficulty", "investigators"] d fun f =>
    Setup.mk <$> f.need "name" <*> f.need "guide_id" <*> f.need "guide_version"
      <*> f.orElse "difficulty" .standard <*> f.need "investigators"

instance : Codec Setup where
  encode s := .obj [("name", encode s.name), ("guide_id", encode s.guide),
    ("guide_version", encode s.guideVersion), ("difficulty", encode s.difficulty),
    ("investigators", encode s.investigators)]
  decode := Setup.ofDocument

end Chronicle
