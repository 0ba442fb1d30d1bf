import MediaSearch.Text.Ascii

set_option autoImplicit false

namespace MediaSearch.Sql

inductive ValueType where
  | text
  | exactText
  | integer
  | date
  -- Whether a row of a joined table is there.
  | flag
  | computed
  deriving DecidableEq, Repr

def ValueType.name : ValueType → String
  | .text => "string"
  | .exactText => "exact_string"
  | .integer => "int"
  | .date => "date"
  | .flag => "bool"
  | .computed => "computed"

def ValueType.label : ValueType → String
  | .text => "string"
  | .exactText => "exact string"
  | .integer => "integer"
  | .date => "date"
  | .flag => "boolean"
  | .computed => "computed"

def ValueType.isOrdered : ValueType → Bool
  | .integer => true
  | .date => true
  | _ => false

structure Column where
  table : String
  name : String
  deriving DecidableEq, Repr

def Column.qualified (column : Column) : String := column.table ++ "." ++ column.name

inductive Field where
  | path
  | title
  | album
  | artist
  | albumArtist
  | discNumber
  | trackNumber
  | bitRate
  | duration
  | fileSize
  | comment
  | created
  | changed
  | lastScanned
  | recordingId
  | releaseId
  | genre
  | year
  | folder
  | lastPlayed
  | format
  | playCount
  | albumRating
  | starred
  | ranking
  deriving DecidableEq, Repr

namespace Field

/-- Every field, in the order in which they are listed to users. -/
def all : List Field :=
  [.path, .title, .album, .artist, .albumArtist, .discNumber, .trackNumber, .bitRate, .duration,
   .fileSize, .comment, .created, .changed, .lastScanned, .recordingId, .releaseId, .genre, .year,
   .folder, .lastPlayed, .format, .playCount, .albumRating, .starred, .ranking]

def name : Field → String
  | .path => "path"
  | .title => "title"
  | .album => "album"
  | .artist => "artist"
  | .albumArtist => "album_artist"
  | .discNumber => "discnumber"
  | .trackNumber => "tracknumber"
  | .bitRate => "bitrate"
  | .duration => "duration"
  | .fileSize => "filesize"
  | .comment => "comment"
  | .created => "created"
  | .changed => "changed"
  | .lastScanned => "lastscanned"
  | .recordingId => "mb_recording_id"
  | .releaseId => "mb_release_id"
  | .genre => "genre"
  | .year => "year"
  | .folder => "folder"
  | .lastPlayed => "lastplayed"
  | .format => "format"
  | .playCount => "play_count"
  | .albumRating => "albumrating"
  | .starred => "starred"
  | .ranking => "ranking"

def valueType : Field → ValueType
  | .path | .title | .album | .artist | .albumArtist | .comment | .recordingId | .releaseId
  | .genre | .folder => .text
  | .format => .exactText
  | .discNumber | .trackNumber | .bitRate | .duration | .fileSize | .year | .playCount
  | .albumRating => .integer
  | .created | .changed | .lastScanned | .lastPlayed => .date
  | .starred => .flag
  | .ranking => .computed

def column? : Field → Option Column
  | .path => some ⟨"media_file", "path"⟩
  | .title => some ⟨"media_file", "title"⟩
  | .album => some ⟨"media_file", "album"⟩
  | .artist => some ⟨"media_file", "artist"⟩
  | .albumArtist => some ⟨"media_file", "album_artist"⟩
  | .discNumber => some ⟨"media_file", "disc_number"⟩
  | .trackNumber => some ⟨"media_file", "track_number"⟩
  | .bitRate => some ⟨"media_file", "bit_rate"⟩
  | .duration => some ⟨"media_file", "duration"⟩
  | .fileSize => some ⟨"media_file", "file_size"⟩
  | .comment => some ⟨"media_file", "comment"⟩
  | .created => some ⟨"media_file", "created"⟩
  | .changed => some ⟨"media_file", "changed"⟩
  | .lastScanned => some ⟨"media_file", "last_scanned"⟩
  | .recordingId => some ⟨"media_file", "mb_recording_id"⟩
  | .releaseId => some ⟨"media_file", "mb_release_id"⟩
  | .genre => some ⟨"media_file", "genre"⟩
  | .year => some ⟨"media_file", "year"⟩
  | .folder => some ⟨"media_file", "folder"⟩
  | .lastPlayed => some ⟨"media_file", "last_played"⟩
  | .format => some ⟨"media_file", "format"⟩
  | .playCount => some ⟨"media_file", "play_count"⟩
  | .albumRating => some ⟨"user_rating", "rating"⟩
  | .starred => some ⟨"starred_media_file", "id"⟩
  | .ranking => none

def ofName? (token : String) : Option Field :=
  all.find? fun field => Text.sameIgnoringCase field.name.toList token.toList

theorem mem_all (field : Field) : field ∈ all := by cases field <;> decide

end Field

end MediaSearch.Sql
