import Formwork.Account.Key
import Formwork.Json.Codec
import Formwork.World.Basic
/-!
# The token store

`TokenStore` keeps credentials in one JSON file, an object with a member for each key.  Every operation reads the
whole file (`_read_all`), and `save` writes it again.  A missing file holds no members.  A file with another value
than an object makes operations fail, and a failing `save` leaves the file as it was.

The store reads and writes JSON by a `Json.Codec`, the limits of its reader and of its writer.
-/
namespace Formwork

namespace Stored

/-- The member of a stored value under a key, `null` if there is none. -/
def get (key : String) (stored : Json) : Except Problem Json := do
  let fields ← stored.fieldsFor "get"
  return (Fields.get? key fields).getD .null

/-- The stored value with a member set. -/
def set (key : String) (value : Json) : Json → Except Problem Json
  | .obj fields => .ok (.obj (Fields.set key value fields))
  | .arr _ => .error (.badType "list indices must be integers or slices, not str")
  | other => .error (.badType s!"'{other.typeName}' object does not support item assignment")

/-- The accounts among the names of members. -/
def accountsAmong : List Json → Except Problem (List String)
  | [] => .ok []
  | .str word :: rest => do
    let accounts ← accountsAmong rest
    return match Account.ofKey? word with
      | some account => account :: accounts
      | none => accounts
  | other :: _ => .error (.noAttribute other.typeName "startswith")

/-- The accounts of a stored value, in the order of its members (`list_accounts`). -/
def accounts : Json → Except Problem (List String)
  | .obj fields => accountsAmong ((Fields.names fields).map .str)
  | .arr items => accountsAmong items
  | .str text => accountsAmong (text.toList.map fun c => .str (String.singleton c))
  | other => .error (.badType s!"'{other.typeName}' object is not iterable")

end Stored

/-- The token store in a file. -/
structure TokenStore where
  /-- The file. -/
  file : String
  /-- The reader and the writer of the file. -/
  codec : Json.Codec := {}
deriving DecidableEq, Inhabited

namespace TokenStore

/-- The store of some settings, in a run with these limits for reading.  It writes without limits. -/
def ofSettings (limits : Json.Limits) (settings : Settings) : TokenStore where
  file := settings.tokenFile
  codec := { reads := limits }

/-- The store of the current settings (`_get_token_store`). -/
def current : Act World TokenStore := do
  let settings ← World.currentSettings
  let world ← .state
  return .ofSettings world.limits settings

/-- The value of the file (`_read_all`). -/
def stored (store : TokenStore) : Act World Json := do
  let there ← World.isThere store.file
  if there then
    let text ← World.fileText store.file
    .ofProblem (store.codec.decode text)
  else
    pure (.obj [])

/-- The value under a key (`get`). -/
def get (store : TokenStore) (key : String) : Act World Json := do
  let stored ← store.stored
  .ofProblem (Stored.get key stored)

/-- Saves a value under a key (`save`).  A value that cannot be written is found before the file is touched. -/
def save (store : TokenStore) (key : String) (value : Json) : Act World Unit := do
  let stored ← store.stored
  let changed ← .ofProblem (Stored.set key value stored)
  let text ← .ofProblem (store.codec.encode changed)
  World.saveText store.file text

/-- The accounts in the store (`list_accounts`). -/
def accounts (store : TokenStore) : Act World (List String) := do
  let stored ← store.stored
  .ofProblem (Stored.accounts stored)

end TokenStore
end Formwork
