import Formwork.Account.SignIn
import Formwork.Proofs.Json.Tidy
import Mathlib.Data.List.Basic

/-!
# Account names

The name of an account becomes part of a key of the token store and is recovered from that key by `list_accounts`; it
is sent to the consent page in `state` and recovered from that in the callback.  Both recover any name, whatever its
characters (`Account.ofKey?_key`, `SignIn.accountOf_state`), so no two accounts share a key (`Account.key_injective`).

The accounts of the store are listed in the order of its entries, and a new entry comes last
(`Stored.names_set_key`).
-/
namespace Formwork
namespace Account

/-- The account of a key is the rest of it. -/
theorem ofKey?_keyStart_append (account : String) : ofKey? (keyStart ++ account) = some account := by
  have hlong : keyStart ++ account ≠ service := by
    intro h
    have hlength := congrArg (List.length ∘ String.toList) h
    simp [keyStart, service] at hlength
  have hstart : keyStart.toList.isPrefixOf (keyStart ++ account).toList = true := by
    rw [String.toList_append, List.isPrefixOf_iff_prefix]
    exact List.prefix_append _ _
  rw [ofKey?, if_neg hlong, if_pos hstart, String.toList_append]
  exact congrArg some (String.ofList_toList (s := account))

/-- All other keys belong to no account. -/
theorem ofKey?_eq_none {word : String} (hservice : word ≠ service)
    (hstart : ∀ account, word ≠ keyStart ++ account) : ofKey? word = none := by
  have hprefix : ¬ keyStart.toList.isPrefixOf word.toList = true := by
    rw [List.isPrefixOf_iff_prefix]
    rintro ⟨rest, hrest⟩
    refine hstart (String.ofList rest) (String.toList_inj.mp ?_)
    rw [String.toList_append, String.toList_ofList, hrest]
  rw [ofKey?, if_neg hservice, if_neg hprefix]

/-- The account of the key of an account is that account. -/
theorem ofKey?_key (account : String) : ofKey? (key account) = some account := by
  unfold key
  split
  · rename_i hdefault
    rw [hdefault]
    rfl
  · exact ofKey?_keyStart_append account

/-- **No two accounts share a key.** -/
theorem key_injective : Function.Injective key := by
  intro account other h
  have hkey := ofKey?_key account
  rw [h, ofKey?_key] at hkey
  exact (Option.some.inj hkey).symm

end Account

/-- **The account of the `state` for an account is that account.** -/
theorem SignIn.accountOf_state (account : String) : accountOf (state account) = account := by
  have hstate : (state account).toList = ['f', 'o', 'r', 'm', 's'] ++ ':' :: account.toList := by
    simp [state, Account.service, toString]
  have hservice : ∀ c ∈ ['f', 'o', 'r', 'm', 's'], decide (c ≠ ':') = true := by simp
  have hdrop : (state account).toList.dropWhile (· ≠ ':') = ':' :: account.toList := by
    rw [hstate, List.dropWhile_append_of_pos hservice]
    exact List.dropWhile_cons_of_neg (by decide)
  unfold accountOf
  rw [hdrop]
  exact String.ofList_toList

/-! ### The accounts of the store -/

namespace Stored

variable {fields : Fields} {value : Json}

theorem accountsAmong_map_str (words : List String) :
    accountsAmong (words.map .str) = .ok (words.filterMap Account.ofKey?) := by
  induction words with
  | nil => rfl
  | cons word rest ih =>
    rw [List.map_cons, accountsAmong, ih, List.filterMap_cons]
    cases Account.ofKey? word with
    | none => rfl
    | some account => rfl

/-- The accounts are those of the names of the entries. -/
theorem accounts_obj (fields : Fields) :
    accounts (.obj fields) = .ok (fields.names.filterMap Account.ofKey?) :=
  accountsAmong_map_str fields.names

/-- The accounts of entries with keys of accounts. -/
theorem accounts_obj_of_names {accounts : List String} (h : fields.names = accounts.map Account.key) :
    Stored.accounts (.obj fields) = .ok accounts := by
  have hkey : Account.ofKey? ∘ Account.key = some := funext Account.ofKey?_key
  rw [accounts_obj, h, List.filterMap_map, hkey, List.filterMap_some]

theorem mem_names_set (name : String) (value : Json) (fields : Fields) :
    name ∈ (fields.set name value).names := by
  by_cases h : name ∈ fields.names
  · rw [Json.names_set_of_mem h]
    exact h
  · rw [Json.set_of_notMem h, Fields.names, List.map_append]
    exact List.mem_append_right _ (List.mem_singleton_self name)

theorem eraseDups_append_singleton (accounts : List String) (account : String) :
    (accounts ++ [account]).eraseDups =
      if account ∈ accounts then accounts.eraseDups else accounts.eraseDups ++ [account] := by
  rw [List.eraseDups_append, List.removeAll]
  by_cases h : account ∈ accounts
  · simp [h]
  · simp [h, List.eraseDups_cons]

/-- **A new account comes last**, and one that is there keeps its place. -/
theorem names_set_key {accounts : List String} (h : fields.names = accounts.eraseDups.map Account.key)
    (account : String) (value : Json) :
    (fields.set (Account.key account) value).names = (accounts ++ [account]).eraseDups.map Account.key := by
  have hmem : Account.key account ∈ fields.names ↔ account ∈ accounts := by
    rw [h, List.mem_map_of_injective Account.key_injective, List.mem_eraseDups]
  rw [eraseDups_append_singleton]
  by_cases haccount : account ∈ accounts
  · rw [Json.names_set_of_mem (hmem.mpr haccount), h, if_pos haccount]
  · rw [Json.set_of_notMem (mt hmem.mp haccount), if_neg haccount, List.map_append, ← h, Fields.names,
      List.map_append]
    rfl

end Stored
end Formwork
