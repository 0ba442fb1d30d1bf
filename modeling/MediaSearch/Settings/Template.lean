import MediaSearch.Text.Lines

set_option autoImplicit false

namespace MediaSearch

namespace Template

def localExample : String :=
  "# advq configuration for this directory tree.
#
# Files are discovered from the working directory upwards; closer files
# override settings from files further up and from ~/.advq.toml.

# Stop discovery here and ignore parent and global configuration.
root = false

[compile]
# User whose stars and album ratings `starred`, `albumrating` and `ranking` use.
username = \"admin\"
# Media type restriction: all, songs, albums or artists.
scope = \"songs\"
# Ordering applied when --order is not given, e.g. \"-ranking, artist\".
order = \"-lastplayed\"
# Table and column list used to assemble the printed statement.
table = \"media_file\"
columns = \"media_file.*\"

[output]
# Print JSON instead of the statement and parameter listing.
json = false
"

def globalExample : String :=
  "# Global advq configuration (~/.advq.toml).
#
# Lowest precedence: any .advq.toml between the working directory and the
# filesystem root overrides these values.

[compile]
# Default user for per-user fields.
username = \"admin\"
# Default ordering.
order = \"artist, album, tracknumber\"
"

def commentLine (line : String) : String :=
  match line.toList with
  | [] => "\n"
  | '#' :: _ => line ++ "\n"
  | _ => "# " ++ line ++ "\n"

def commented (text : String) : String := String.join ((Text.lines text).map commentLine)

def text (isGlobal : Bool) : String :=
  commented (if isGlobal then globalExample else localExample)

end Template

end MediaSearch
