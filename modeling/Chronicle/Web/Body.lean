import Chronicle.Record.Json
import Chronicle.Service.Command
import Chronicle.Json.Text

/-!
# Request bodies

The body of a request is a JSON document that holds the parts of a command.
-/

namespace Chronicle.Web

open Json

def creationOfDocument (d : Document) : Reading Command :=
  gather .start ["name", "guide_id", "difficulty", "investigators"] d fun f =>
    .create <$> f.need "name" <*> f.need "guide_id" <*> f.orElse "difficulty" .standard
      <*> f.need "investigators"

/-- The record of an answer stands beside the parts that say where it belongs. -/
def inputOfDocument (campaign : Uuid) (d : Document) : Reading Command :=
  gatherInlined .start ["record_id", "scenario", "step", "recorded_at"] d fun f rest =>
    .record campaign <$> f.orElse "scenario" none <*> f.orElse "step" none
      <*> f.afterwards (Payload.ofDocument .part rest) <*> f.orElse "record_id" none
      <*> f.orElse "recorded_at" none

def bucketOfDocument (d : Document) : Reading Bucket :=
  gather .start ["scenario"] d fun f => f.orElse "scenario" none

def undoOfDocument (campaign : Uuid) (d : Document) : Reading Command :=
  .undo campaign <$> bucketOfDocument d

def redoOfDocument (campaign : Uuid) (d : Document) : Reading Command :=
  .redo campaign <$> bucketOfDocument d

def resetOfDocument (campaign : Uuid) (d : Document) : Reading Command :=
  gather .start ["scenario"] d fun f => .reset campaign <$> f.need "scenario"

end Chronicle.Web
