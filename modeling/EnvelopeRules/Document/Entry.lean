import EnvelopeRules.Toml.Value

/-!
# Entries of a document as written

Each entry is a table with known names only, or an array of the same values in their order.  In the
array form of a clause nothing may be left out.
-/

namespace EnvelopeRules

/-- One clause of a rule: a condition or a fallback, with anything left out or in excess. -/
structure Clause where
  field : Option String
  equals : Option String
  startsWith : Option String
  pattern : Option String
  result : Option String
  fallback : Option Toml.Value

/-- What a rule does: it renders a template or goes through clauses. -/
inductive RuleTest where
  | template (source : String)
  | clauses (cs : List Clause)

structure RuleEntry where
  test : RuleTest
  key : Option String
  expect : Option Toml.Value

structure StoreEntry where
  kind : String
  format : String
  values : List String

namespace Toml.Value

/-- A text that may be left out: nothing if it is there and no text. -/
def optionalText? : Option Value → Option (Option String)
  | none => some none
  | some (.text s) => some (some s)
  | some _ => none

def texts? (items : List Value) : Option (List String) := items.mapM text?

end Toml.Value

/-- Whether all names of a table are known. -/
def onlyNames (known : List String) (entries : List (String × Toml.Value)) : Bool :=
  entries.all fun e => known.contains e.1

open Toml.Value in
def Clause.ofValue? : Toml.Value → Option Clause
  | .table entries => do
    let get := fun name => Table.lookup name entries
    if onlyNames ["if", "eq", "starts-with", "matches", "then", "else"] entries then
      return ⟨← optionalText? (get "if"), ← optionalText? (get "eq"),
        ← optionalText? (get "starts-with"), ← optionalText? (get "matches"),
        ← optionalText? (get "then"), get "else"⟩
    else none
  | .array [.text field, .text equals, .text startsWith, .text pattern, .text result, fallback] =>
    some ⟨some field, some equals, some startsWith, some pattern, some result, some fallback⟩
  | _ => none

def RuleTest.ofValue? : Toml.Value → Option RuleTest
  | .text source => some (.template source)
  | .array items => (items.mapM Clause.ofValue?).map .clauses
  | _ => none

open Toml.Value in
def RuleEntry.ofValue? : Toml.Value → Option RuleEntry
  | .table entries => do
    let get := fun name => Table.lookup name entries
    if onlyNames ["test", "key", "expect"] entries then
      return ⟨← RuleTest.ofValue? (← get "test"), ← optionalText? (get "key"), get "expect"⟩
    else none
  | .array (test :: rest) => do
    let test ← RuleTest.ofValue? test
    match rest with
    | [] => return ⟨test, none, none⟩
    | [key] => return ⟨test, some (← key.text?), none⟩
    | [key, expect] => return ⟨test, some (← key.text?), some expect⟩
    | _ => none
  | _ => none

open Toml.Value in
def StoreEntry.ofValue? : Toml.Value → Option StoreEntry
  | .table entries => do
    let get := fun name => Table.lookup name entries
    if onlyNames ["type", "format", "values"] entries then
      let values ← match get "values" with
        | none => some []
        | some (.array items) => texts? items
        | some _ => none
      return ⟨← (← get "type").text?, ← (← get "format").text?, values⟩
    else none
  | .array [kind, format] => do return ⟨← kind.text?, ← format.text?, []⟩
  | .array [kind, format, .array items] => do
    return ⟨← kind.text?, ← format.text?, ← texts? items⟩
  | _ => none

end EnvelopeRules
