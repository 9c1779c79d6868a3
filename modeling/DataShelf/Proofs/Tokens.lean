import DataShelf.Sql.Quoted
import Mathlib.Data.List.Basic

/-!
# Quoted tokens in SQL

`Quotes` is the lexical rule: a quoted token ends at the first of its quotes that is not doubled, and
a doubled one stands for one. The scanner follows the rule (`unquote?_eq_some_iff`), so what it reads
off the front of a statement is what an engine reads there (`tokenBehind?_identifier`,
`token?_literal`).
-/

namespace DataShelf.Sql
set_option autoImplicit false

/-- What stands behind an opening quote, cut at the closing one: the value of the token and what
follows it. -/
inductive Quotes (quote : Char) : List Char → List Char → List Char → Prop where
  | close {rest : List Char} : rest.head? ≠ some quote → Quotes quote (quote :: rest) [] rest
  | doubled {cs value rest : List Char} :
      Quotes quote cs value rest → Quotes quote (quote :: quote :: cs) (quote :: value) rest
  | plain {c : Char} {cs value rest : List Char} :
      c ≠ quote → Quotes quote cs value rest → Quotes quote (c :: cs) (c :: value) rest

/-- What is scanned up to a quote follows the rule of quoting. -/
theorem quotes_of_unquoteTail? {quote : Char} {cs value rest : List Char}
    (read : unquoteTail? quote cs = some (value, rest)) : Quotes quote cs value rest := by
  fun_induction unquoteTail? quote cs generalizing value rest with
  | case1 => cases read
  | case2 =>
    cases read
    exact .close (by simp)
  | case3 => cases read
  | case4 cs ih =>
    obtain ⟨⟨v, r⟩, inner, same⟩ := Option.map_eq_some_iff.1 read
    cases same
    exact .doubled (ih inner)
  | case5 d cs other =>
    cases read
    exact .close (by simpa using other)
  | case6 c d cs other ih =>
    obtain ⟨⟨v, r⟩, inner, same⟩ := Option.map_eq_some_iff.1 read
    cases same
    exact .plain other (ih inner)

/-- What follows the rule of quoting is scanned. -/
theorem unquoteTail?_of_quotes {quote : Char} {cs value rest : List Char}
    (rule : Quotes quote cs value rest) : unquoteTail? quote cs = some (value, rest) := by
  induction rule with
  | @close rest free =>
    cases rest with
    | nil => simp [unquoteTail?]
    | cons c rest =>
      have other : c ≠ quote := fun same => free (by simp [same])
      simp [unquoteTail?, other]
  | doubled _ ih => simp [unquoteTail?, ih]
  | @plain c cs value rest other inner ih =>
    cases cs with
    | nil => cases inner
    | cons d cs => simp [unquoteTail?, other, ih]

/-- The scanner reads a token exactly if there is one by the rule. -/
theorem unquote?_eq_some_iff {quote : Char} {text value rest : List Char} :
    unquote? quote text = some (value, rest) ↔
      ∃ cs, text = quote :: cs ∧ Quotes quote cs value rest := by
  cases text with
  | nil => simp [unquote?]
  | cons c cs =>
    by_cases same : c = quote
    · subst same
      simp only [unquote?, if_true, List.cons.injEq, true_and]
      constructor
      · intro read
        exact ⟨cs, rfl, quotes_of_unquoteTail? read⟩
      · rintro ⟨_, rfl, rule⟩
        exact unquoteTail?_of_quotes rule
    · simp [unquote?, same]

/-! ### Reading statements -/

/-- Reads a quoted token off the front of a text; answers its value and what follows. -/
def token? (quote : Char) (text : String) : Option (String × String) :=
  (unquote? quote text.toList).map fun r => (String.ofList r.1, String.ofList r.2)

/-- Reads fixed words and a quoted identifier behind them off the front of a statement. -/
def tokenBehind? (words statement : String) : Option (String × String) :=
  (statement.toList.dropPrefix? words.toList).bind fun rest => token? '"' (String.ofList rest)

theorem token?_enclose (quote : Char) (value rest : String)
    (free : rest.toList.head? ≠ some quote) :
    token? quote (String.ofList (enclose quote value.toList) ++ rest) = some (value, rest) := by
  simp [token?, unquote?_enclose _ _ _ free]

/-- An identifier is read back, with what follows, unless that begins with a quote again. -/
theorem token?_identifier (name rest : String) (free : rest.toList.head? ≠ some '"') :
    token? '"' (identifier name ++ rest) = some (name, rest) :=
  token?_enclose '"' name rest free

/-- A literal is read back, with what follows, unless that begins with a quote again. -/
theorem token?_literal (value rest : String) (free : rest.toList.head? ≠ some '\'') :
    token? '\'' (literal value ++ rest) = some (value, rest) :=
  token?_enclose '\'' value rest free

/-- An identifier behind words is scanned as its name. -/
theorem tokenBehind?_identifier (words name rest : String) (free : rest.toList.head? ≠ some '"') :
    tokenBehind? words (words ++ identifier name ++ rest) = some (name, rest) := by
  have behind : (words ++ identifier name ++ rest).toList.dropPrefix? words.toList =
      some (identifier name ++ rest).toList := by
    rw [String.append_assoc, String.toList_append]
    exact List.dropPrefix?_append_of_beq _ (beq_self_eq_true _)
  rw [tokenBehind?, behind, Option.bind_some, String.ofList_toList]
  exact token?_identifier name rest free

/-- A text in quotes tells the text. -/
theorem enclose_injective (quote : Char) : Function.Injective (enclose quote) := by
  intro a b same
  have left := unquote?_enclose quote a [] (by simp)
  have right := unquote?_enclose quote b [] (by simp)
  rw [same, right] at left
  exact (Prod.mk.inj (Option.some.inj left)).1.symm

theorem identifier_injective : Function.Injective identifier := by
  intro a b same
  exact String.toList_inj.1 (enclose_injective '"' (String.ofList_injective same))

theorem literal_injective : Function.Injective literal := by
  intro a b same
  exact String.toList_inj.1 (enclose_injective '\'' (String.ofList_injective same))

end DataShelf.Sql
