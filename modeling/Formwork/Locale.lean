import Formwork.Text.Display
/-!
# Locales

The locales of scripts and of remediation messages (`Locale`).
-/
namespace Formwork

/-- A locale. -/
inductive Locale
  | en
  | vi
deriving DecidableEq, Inhabited

namespace Locale

/-- The locales, in the order in which error messages list them. -/
def all : List Locale := [en, vi]

/-- The code of a locale. -/
def code : Locale → String
  | en => "en"
  | vi => "vi"

/-- The locale with a code. -/
def ofCode? (word : String) : Option Locale := all.find? fun locale => locale.code == word

/-- The locale of a JSON value. -/
def ofJson? (value : Json) : Option Locale := value.text?.bind ofCode?

@[simp] theorem ofCode?_code (locale : Locale) : ofCode? locale.code = some locale := by
  cases locale <;> decide

end Locale
end Formwork
