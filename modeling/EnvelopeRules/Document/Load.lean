import EnvelopeRules.Document.Raw
import EnvelopeRules.Rule.Clauses
import EnvelopeRules.Engine

/-!
# Loading documents

Stores are loaded first, then rules for direct answers, then lookup rules, each in the order of
their names.  A bad entry makes the load fail or is left out, as the options say; a bad envelope and
a store that cannot be registered always make it fail.
-/

namespace EnvelopeRules

structure LoadOptions where
  sizeLimit : Nat
  skipInvalid : Bool
  cache : Option CacheSettings

namespace LoadOptions

/-- The size that a pattern may have if no limit is given. -/
def defaultSizeLimit : Nat := 1024 * 1024

def default : LoadOptions := ⟨defaultSizeLimit, false, none⟩

end LoadOptions

/-- A loaded document. -/
structure RuleDocument where
  rules : RuleSet
  envelope : Option Envelope
  expectations : List Expectation

/-- An entry that was left out. -/
structure Skipped where
  part : DocumentSection
  name : String
  reason : EntryError

namespace RuleDocument

def start (envelope : Option Envelope) : RuleDocument := ⟨.empty, envelope, []⟩

/-- The store that an entry declares. -/
def buildStore (o : LoadOptions) (id : String) (v : Toml.Value) : Except EntryError Store :=
  match StoreEntry.ofValue? v with
  | none => .error .shape
  | some entry =>
    match Store.create id entry.kind entry.format entry.values with
    | .error e => .error (.store e)
    | .ok s => .ok (match o.cache with
      | some settings => s.cached settings
      | none => s)

/-- A built store is one of a memory under the entry's name, with or without a cache. -/
theorem memory_of_buildStore {o : LoadOptions} {id : String} {v : Toml.Value} {s : Store}
    (h : buildStore o id v = .ok s) :
    ∃ m, s = .ofMemory id m ∨ ∃ settings, s = (Store.ofMemory id m).cached settings := by
  rw [buildStore] at h
  split at h
  · cases h
  · rename_i entry _
    split at h
    · cases h
    · rename_i created hcreate
      rw [Store.create] at hcreate
      split at hcreate
      · cases hcreate
        refine ⟨.ofList entry.values, ?_⟩
        cases h
        split
        · exact .inr ⟨_, rfl⟩
        · exact .inl rfl
      · cases hcreate

def buildExpected (entry : RuleEntry) : Except EntryError (Option Value) :=
  match entry.expect with
  | none => .ok none
  | some v => (Value.ofLiteral v).map some

/-- The rule that an entry declares for direct answers, and what it is expected to give. -/
def buildEval (o : LoadOptions) (v : Toml.Value) : Except EntryError (Rule × Option Value) :=
  match RuleEntry.ofValue? v with
  | none => .error .shape
  | some entry =>
    if entry.key.isSome then .error (.invalidRule .keyOnEvalRule)
    else do
      let rule ← Rule.ofTest o.sizeLimit entry.test
      return (rule, ← buildExpected entry)

def buildKey : Option String → Except EntryError (Option Template)
  | none => .ok none
  | some source => (Template.ofSource source).map some

/-- The first identifier that a lookup rule names whatever the envelope and that is not
registered. -/
def undeclared? (stores : Registry) (rule : LookupRule) : Option String :=
  rule.staticStores.find? fun id => !stores.contains id

/-- The lookup rule that an entry declares, and what it is expected to give. -/
def buildLookup (o : LoadOptions) (stores : Registry) (v : Toml.Value) :
    Except EntryError (LookupRule × Option Value) :=
  match RuleEntry.ofValue? v with
  | none => .error .shape
  | some entry => do
    let key ← buildKey entry.key
    let rule ← LookupRule.make (← Rule.ofTest o.sizeLimit entry.test) key
    match undeclared? stores rule with
    | some id => .error (.unknownStore id)
    | none => return (rule, ← buildExpected entry)

def expect (d : RuleDocument) (kind : RuleKind) (name : String) (expected : Option Value) :
    RuleDocument :=
  { d with expectations := d.expectations ++ (expected.map fun v => ⟨kind, name, v⟩).toList }

/-- Registers a store.  A name that is taken makes the load fail, also if bad entries are left
out. -/
def addStore (d : RuleDocument) (s : Store) : Except LoadError RuleDocument :=
  match d.rules.stores.insert s with
  | .error e => .error (.store e)
  | .ok stores => .ok { d with rules := { d.rules with stores } }

def addEval (d : RuleDocument) (name : String) (r : Rule × Option Value) : RuleDocument :=
  { d with rules := { d.rules with evals := d.rules.evals.insert name r.1 } }.expect .eval name r.2

def addLookup (d : RuleDocument) (name : String) (r : LookupRule × Option Value) : RuleDocument :=
  { d with rules := { d.rules with lookups := d.rules.lookups.insert name r.1 } }.expect
    .lookup name r.2

/-- Goes through the entries of a part in order.  What an entry builds is added; one that builds
nothing makes the load fail or is left out. -/
def addAll {β : Type} (skip : Bool) (part : DocumentSection)
    (build : RuleDocument → String → Toml.Value → Except EntryError β)
    (add : RuleDocument → String → β → Except LoadError RuleDocument) :
    RuleDocument → List (String × Toml.Value) → Except LoadError (RuleDocument × List Skipped)
  | d, [] => .ok (d, [])
  | d, (name, v) :: rest =>
    match build d name v with
    | .ok b => do addAll skip part build add (← add d name b) rest
    | .error e =>
      if skip then
        (addAll skip part build add d rest).map fun r => (r.1, ⟨part, name, e⟩ :: r.2)
      else .error (.entry part name e)

def addStores (o : LoadOptions) (d : RuleDocument) (entries : List (String × Toml.Value)) :
    Except LoadError (RuleDocument × List Skipped) :=
  addAll o.skipInvalid .store (fun _ => buildStore o) (fun d _ => d.addStore) d entries

def addEvals (o : LoadOptions) (d : RuleDocument) (entries : List (String × Toml.Value)) :
    Except LoadError (RuleDocument × List Skipped) :=
  addAll o.skipInvalid .eval (fun _ _ => buildEval o) (fun d name r => .ok (d.addEval name r))
    d entries

def addLookups (o : LoadOptions) (d : RuleDocument) (entries : List (String × Toml.Value)) :
    Except LoadError (RuleDocument × List Skipped) :=
  addAll o.skipInvalid .lookup (fun d _ => buildLookup o d.rules.stores)
    (fun d name r => .ok (d.addLookup name r)) d entries

/-- The envelope that a document declares. -/
def readEnvelope : Option (Table Toml.Value) → Except LoadError (Option Envelope)
  | none => .ok none
  | some t =>
    match Envelope.ofTable t with
    | .ok e => .ok (some e)
    | .error e => .error (.envelope e)

/-- The document with the entries that were left out. -/
def ofRaw (o : LoadOptions) (raw : RawDocument) :
    Except LoadError (RuleDocument × List Skipped) := do
  let d := start (← readEnvelope raw.envelope)
  let (d, stores) ← addStores o d raw.stores.entries
  let (d, evals) ← addEvals o d raw.evals.entries
  let (d, lookups) ← addLookups o d raw.lookups.entries
  return (d, stores ++ evals ++ lookups)

def load (o : LoadOptions) (text : String) : Except LoadError (RuleDocument × List Skipped) :=
  match RawDocument.parse? text with
  | none => .error .parse
  | some raw => ofRaw o raw

def parse (o : LoadOptions) (text : String) : Except LoadError RuleDocument :=
  (load o text).map Prod.fst

end RuleDocument
end EnvelopeRules
