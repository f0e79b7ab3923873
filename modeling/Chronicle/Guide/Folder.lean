import Chronicle.Guide.Library
import Chronicle.Text.Utf8

/-!
# Folders of guides

A library is loaded from the files of a folder, one guide a file, in the order of their names. The
end of a file's name says how the guide is written; files of other kinds are passed over. The first
file that does not load ends the loading.
-/

namespace Chronicle

/-- What stands in a folder under a name. -/
inductive FolderEntry where
  | file (octets : List UInt8)
  | folder

abbrev Folder := Dict String FolderEntry

inductive GuideFormat where
  | json
  | yaml
  deriving DecidableEq

/-- What follows the last dot of a file's name. A dot that begins the name does not count. -/
def extension? (name : String) : Option String :=
  let cs := name.toList.reverse
  match cs.dropWhile (· ≠ '.') with
  | '.' :: _ :: _ => some (String.ofList (cs.takeWhile (· ≠ '.')).reverse)
  | _ => none

def GuideFormat.ofName? (name : String) : Option GuideFormat :=
  match extension? name with
  | some "yaml" | some "yml" => some .yaml
  | some "json" => some .json
  | _ => none

namespace Guide

def ofText (format : GuideFormat) (source : String) : Except LoadError Guide :=
  match format with
  | .json => ofJsonText source
  | .yaml => ofYamlText source

/-- The guide in a file, which has to be a text. -/
def ofEntry (format : GuideFormat) : FolderEntry → Except LoadError Guide
  | .file octets =>
    match Text.Utf8.decode? octets with
    | some source => ofText format source
    | none => .error .unreadable
  | .folder => .error .unreadable

end Guide

namespace Library

/-- The library after one more entry of the folder. -/
def addEntry (l : Library) (e : String × FolderEntry) : Except Guide.LoadError Library :=
  match GuideFormat.ofName? e.1 with
  | some format => (Guide.ofEntry format e.2).bind l.add
  | none => .ok l

/-- The library of a folder, unless there is no such folder. -/
def ofFolder : Option Folder → Except Guide.LoadError Library
  | some folder => folder.entries.foldlM addEntry .empty
  | none => .error .unreadable

end Library
end Chronicle
