import ReadThrough.Text.Cut
import ReadThrough.Text.Percent

/-!
# Settings after the question mark

The query of a URL is a row of settings with `&` between them, each a name and after the first
`=` a value; a name alone has the empty value. If a name is set twice the last one counts.
-/

set_option autoImplicit false

namespace ReadThrough.Url

open Text

/-- One setting. -/
def readSetting (cs : List Char) : String × String :=
  let (name, value) := cutAt '=' cs
  (formText name, formText (value.getD []))

/-- The settings in the order in which they stand. -/
def settings (query : List Char) : List (String × String) :=
  ((fields '&' query).filter (!·.isEmpty)).map readSetting

/-- The value of the last setting of a name. -/
def setting? (query : List Char) (name : String) : Option String :=
  ((settings query).reverse.find? (·.1 == name)).map (·.2)

end ReadThrough.Url
