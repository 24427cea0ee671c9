/-! One-line outlines of nested values: records with named parts, lists and
sets. -/
namespace WordTrack.Text

def commaSeparated (items : List String) : String := ", ".intercalate items

def outlineList (items : List String) : String := "[" ++ commaSeparated items ++ "]"

def outlineSet (items : List String) : String := "\x7b" ++ commaSeparated items ++ "\x7d"

def outlineParts (parts : List (String × String)) : String :=
  commaSeparated (parts.map fun (name, value) => name ++ ": " ++ value)

def outlineRecord (name : String) (parts : List (String × String)) : String :=
  name ++ " \x7b " ++ outlineParts parts ++ " \x7d"

/-- A record some parts of which are not shown. -/
def outlinePartly (name : String) (parts : List (String × String)) : String :=
  name ++ " \x7b " ++ outlineParts parts ++ ", .. \x7d"

end WordTrack.Text
