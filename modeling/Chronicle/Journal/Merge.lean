import Chronicle.Journal.Basic

/-!
# Merging journals

Two journals of one campaign, kept on two devices, are merged into one that holds the records in
effect: those that neither device has retracted, by the time they were recorded and each only
once. Of records that supersede one another the last stays.
-/

namespace Chronicle

namespace Record

/-- Keeps the first record of every id that is not in `seen`. -/
def firstOfId (seen : List Uuid) : List Record → List Record
  | [] => []
  | r :: rest => if r.id ∈ seen then firstOfId seen rest else r :: firstOfId (r.id :: seen) rest

/-- Keeps the last record of every identity, and cumulative records all. -/
def latest : List Record → List Record
  | [] => []
  | r :: rest =>
    if r.isCumulative || rest.all (·.identity ≠ r.identity) then r :: latest rest
    else latest rest

end Record

namespace Journal

/-- The records in effect in either journal and retracted in neither. -/
def survivors (a b : Journal) : List Record :=
  (a.active ++ b.active).filter fun r => r.id ∉ a.retractedIds ∧ r.id ∉ b.retractedIds

/-- The survivors by time; records of one time stay as they are, those of `a` first. -/
def chronology (a b : Journal) : List Record :=
  (survivors a b).mergeSort fun r s => r.recordedAt.le s.recordedAt

def merge (a b : Journal) : Journal :=
  ⟨a.setup, (Record.latest (Record.firstOfId [] (chronology a b))).map .input⟩

end Journal
end Chronicle
