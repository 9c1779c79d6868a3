import DataShelf.Text.Percent

/-!
# Addresses of resources

A resource is a source, the first rows of a table, or the result of a query. Names and queries are
percent-encoded, so a slash in one never counts as the slash between two.
-/

namespace DataShelf.Server
set_option autoImplicit false

/-- What an address leads to. -/
inductive ResourceUri where
  | source (name : String)
  | table (source table : String)
  | sql (query : String)
  deriving DecidableEq, Repr

namespace ResourceUri

/-- How every address begins. -/
def scheme : String := "evidence://"

/-- How the address of a table goes on. -/
def tableMark : String := "query/"

/-- How the address of a query goes on. -/
def sqlMark : String := "sql/"

/-- What follows a beginning of a text. -/
def after? (beginning : String) (cs : List Char) : Option (List Char) :=
  go beginning.toList cs
where
  /-- Takes the beginning off the text, character by character. -/
  go : List Char → List Char → Option (List Char)
    | [], cs => some cs
    | b :: bs, c :: cs => if b = c then go bs cs else none
    | _ :: _, [] => none

/-- The text that an encoded part stands for. -/
def decode? (cs : List Char) : Option String := Text.percentDecode? (String.ofList cs)

/-- The table that two encoded names with a slash between them lead to. -/
def ofTablePath? (cs : List Char) : Option ResourceUri :=
  let first := cs.takeWhile (· != '/')
  match cs.dropWhile (· != '/') with
  | [] => none
  | _ :: second =>
    if first.isEmpty || second.isEmpty || second.contains '/' then none
    else do
      let sourceName ← decode? first
      let tableName ← decode? second
      return .table sourceName tableName

/-- What an address leads to, if it has one of the three shapes. -/
def parse? (uri : String) : Option ResourceUri := do
  let rest ← after? scheme uri.toList
  match after? tableMark rest with
  | some path => ofTablePath? path
  | none =>
    match after? sqlMark rest with
    | some encoded => if encoded.isEmpty then none else (decode? encoded).map .sql
    | none =>
      if rest.isEmpty || rest.contains '/' then none else (decode? rest).map .source

/-- The address of a source. -/
def ofSource (name : String) : String := scheme ++ Text.percentEncode name

/-- The address of a table. -/
def ofTable (source table : String) : String :=
  scheme ++ tableMark ++ Text.percentEncode source ++ "/" ++ Text.percentEncode table

/-- The address of a query. -/
def ofSql (query : String) : String := scheme ++ sqlMark ++ Text.percentEncode query

/-- The pattern of the addresses of tables. -/
def tablePattern : String := scheme ++ tableMark ++ "\x7bsource\x7d/\x7btable\x7d"

/-- The pattern of the addresses of queries. -/
def sqlPattern : String := scheme ++ sqlMark ++ "\x7bquery\x7d"

end ResourceUri
end DataShelf.Server
