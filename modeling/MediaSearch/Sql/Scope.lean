import MediaSearch.Text.Ascii
import MediaSearch.Text.Blank

set_option autoImplicit false

namespace MediaSearch.Sql

inductive Scope where
  | all
  | songs
  | albums
  | artists
  deriving DecidableEq, Repr

namespace Scope

def every : List Scope := [.all, .songs, .albums, .artists]

def name : Scope → String
  | .all => "all"
  | .songs => "songs"
  | .albums => "albums"
  | .artists => "artists"

def restriction? : Scope → Option String
  | .all => none
  | .songs => some "media_file.type = 'MUSIC'"
  | .albums => some "media_file.type = 'ALBUM'"
  | .artists => some "media_file.type = 'DIRECTORY'"

def ofName? (text : String) : Option Scope :=
  every.find? fun scope => Text.sameIgnoringCase scope.name.toList (Text.trim text.toList)

def unknownMessage (text : String) : String :=
  "unknown scope '" ++ text ++ "', expected one of: all, songs, albums, artists"

end Scope

end MediaSearch.Sql
