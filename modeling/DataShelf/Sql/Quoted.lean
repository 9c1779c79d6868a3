/-!
# Quoting for SQL

A name stands between double quotes and a text between single ones; a quote inside is written twice.
`unquote?` reads one quoted token off the front of a text: it ends at the first quote that is not
doubled. Reading gives back what was written whenever no quote follows it (`unquote?_enclose`).
-/

namespace DataShelf.Sql
set_option autoImplicit false

/-- Characters with each of one kind written twice. -/
def double (quote : Char) : List Char → List Char
  | [] => []
  | c :: cs => if c = quote then c :: c :: double quote cs else c :: double quote cs

/-- Characters between quotes. -/
def enclose (quote : Char) (cs : List Char) : List Char := quote :: (double quote cs ++ [quote])

/-- An identifier in double quotes. -/
def identifier (name : String) : String := String.ofList (enclose '"' name.toList)

/-- A text literal in single quotes. -/
def literal (value : String) : String := String.ofList (enclose '\'' value.toList)

/-- Reads behind an opening quote to the first quote that is not doubled. Answers what stands
between them and what follows. -/
def unquoteTail? (quote : Char) : List Char → Option (List Char × List Char)
  | [] => none
  | [c] => if c = quote then some ([], []) else none
  | c :: d :: cs =>
    if c = quote then
      if d = quote then (unquoteTail? quote cs).map fun r => (quote :: r.1, r.2)
      else some ([], d :: cs)
    else (unquoteTail? quote (d :: cs)).map fun r => (c :: r.1, r.2)

/-- Reads a quoted token off the front of a text. -/
def unquote? (quote : Char) : List Char → Option (List Char × List Char)
  | c :: cs => if c = quote then unquoteTail? quote cs else none
  | [] => none

theorem unquoteTail?_double (quote : Char) (cs rest : List Char) (h : rest.head? ≠ some quote) :
    unquoteTail? quote (double quote cs ++ quote :: rest) = some (cs, rest) := by
  induction cs with
  | nil =>
    cases rest with
    | nil => simp [double, unquoteTail?]
    | cons c rest =>
      have hc : ¬c = quote := fun e => h (by simp [e])
      simp [double, unquoteTail?, hc]
  | cons c cs ih =>
    by_cases hc : c = quote
    · simp [double, hc, unquoteTail?, ih]
    · simp only [double, hc, if_false, List.cons_append]
      cases hd : double quote cs ++ quote :: rest with
      | nil => simp at hd
      | cons d more => simp [unquoteTail?, hc, ← hd, ih]

theorem unquote?_enclose (quote : Char) (cs rest : List Char) (h : rest.head? ≠ some quote) :
    unquote? quote (enclose quote cs ++ rest) = some (cs, rest) := by
  simp [enclose, unquote?, unquoteTail?_double quote cs rest h]

end DataShelf.Sql
