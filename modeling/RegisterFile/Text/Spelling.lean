/-!
Names with several spellings. Letters count in either case and separators do not count at all, so
a spelling is looked up by its key: lower case without separators.
-/

namespace RegisterFile.Text

/-- A written name in lower case, without the separators. -/
def nameKey (separators : List Char) (text : String) : String :=
  String.ofList ((text.toList.filter fun c => !separators.contains c).map Char.toLower)

/-- The first value that a text is a spelling of. -/
def ofSpelling? {α : Type} (separators : List Char) (spellings : α → List String) (values : List α)
    (text : String) : Option α :=
  values.find? fun value => (spellings value).contains (nameKey separators text)

end RegisterFile.Text
