import EnvelopeRules.Log.Event
import EnvelopeRules.Document.Load

/-!
# Events of loading and evaluating

What the log says about a load and about evaluations.
-/

namespace EnvelopeRules
namespace Trace

/-! ## Loading -/

def registered (s : Store) : LogEvent :=
  ⟨.debug, "mailrule_storage::registry", "Registered store",
    [("store", .shown s.id), ("kind", .shown s.kind.name), ("format", .shown s.format.name)]⟩

def skipping (s : Skipped) : LogEvent :=
  ⟨.warn, "mailrule_core::loader", "Skipping invalid entry",
    [("section", .quoted s.part.name), ("name", .shown s.name), ("error", .shown s.reason.message)]⟩

/-- The events of adding entries up to the one that makes the load fail, and the document then. -/
def addAll {β : Type} (skip : Bool) (part : DocumentSection)
    (build : RuleDocument → String → Toml.Value → Except EntryError β)
    (add : RuleDocument → String → β → Except LoadError RuleDocument)
    (added : RuleDocument → String → List LogEvent) :
    RuleDocument → List (String × Toml.Value) → List LogEvent × Option RuleDocument
  | d, [] => ([], some d)
  | d, (name, v) :: rest =>
    match build d name v with
    | .ok b =>
      match add d name b with
      | .ok d =>
        let r := addAll skip part build add added d rest
        (added d name ++ r.1, r.2)
      | .error _ => ([], none)
    | .error e =>
      if skip then
        let r := addAll skip part build add added d rest
        (skipping ⟨part, name, e⟩ :: r.1, r.2)
      else ([], none)

def storeAdded (d : RuleDocument) (id : String) : List LogEvent :=
  ((d.rules.stores.resolve id).map registered).toList

def ofRaw (o : LoadOptions) (raw : RawDocument) : List LogEvent :=
  match RuleDocument.readEnvelope raw.envelope with
  | .error _ => []
  | .ok envelope =>
    let stores := addAll o.skipInvalid .store (fun _ => RuleDocument.buildStore o)
      (fun d _ => d.addStore) storeAdded (.start envelope) raw.stores.entries
    let evals := stores.2.map fun d =>
      addAll o.skipInvalid .eval (fun _ _ => RuleDocument.buildEval o)
        (fun d name r => .ok (d.addEval name r)) (fun _ _ => []) d raw.evals.entries
    let lookups := (evals.bind Prod.snd).map fun d =>
      addAll o.skipInvalid .lookup (fun d _ => RuleDocument.buildLookup o d.rules.stores)
        (fun d name r => .ok (d.addLookup name r)) (fun _ _ => []) d raw.lookups.entries
    let events := fun (r : Option (List LogEvent × Option RuleDocument)) =>
      (r.map Prod.fst).getD []
    stores.1 ++ events evals ++ events lookups

def load (o : LoadOptions) (text : String) : List LogEvent :=
  ((RawDocument.parse? text).map (ofRaw o)).getD []

/-! ## Evaluating -/

def conditionMatched (position : Nat) (c : Condition) : LogEvent :=
  ⟨.debug, "mailrule_core::rules::rule", "Condition matched",
    [("position", .number position), ("field", .shown c.field.name),
      ("operator", .shown c.operator.text)]⟩

/-- The event of the first condition that holds, if none before it fails. -/
def conditions (e : Envelope) : Nat → List Condition → List LogEvent
  | _, [] => []
  | i, c :: rest =>
    match c.evaluate e with
    | .error _ => []
    | .ok none => conditions e (i + 1) rest
    | .ok (some _) => [conditionMatched i c]

def rule (r : Rule) (e : Envelope) : List LogEvent :=
  match r with
  | .template _ => []
  | .conditional cs _ => conditions e 0 cs

def evaluated (message name : String) : Eval Value → List LogEvent
  | .ok v => [⟨.debug, "mailrule_core::engine", message,
      [("rule", .shown name), ("result", .shown v.shown)]⟩]
  | .error _ => []

def eval (rules : RuleSet) (name : String) (e : Envelope) : List LogEvent :=
  match rules.evals.find? name with
  | none => []
  | some r => rule r e ++ evaluated "Evaluated rule" name (rules.eval name e)

/-- An event about the answer to a query. -/
def answered (target message : String) (id : String) (q : Query) (member : Option String) :
    LogEvent :=
  ⟨.debug, target, message,
    [("store", .shown id), ("query", .shown q.shown), ("found", .flag member.isSome)]⟩

/-- The events of a query inside a store: its cache answers, or its backend does. -/
def storeQuery (s : Store) (limit now : Nat) (q : Query) : List LogEvent :=
  match (s.consult now q).1 with
  | some member => [answered "mailrule_storage::cache" "Lookup cache hit" s.id q member]
  | none =>
    match (s.query (some limit) now q).answer? with
    | some (.ok member) =>
      [answered "mailrule_storage::backend::memory" "Memory store lookup" s.id q member]
    | _ => []

def query (st : StoreState) (timeout : Nat) (id : String) (q : Query) : List LogEvent :=
  match st.stores.resolve id with
  | none => []
  | some s =>
    storeQuery s timeout st.now q ++
      match (s.query (some timeout) st.now q).answer? with
      | some (.ok member) => [answered "mailrule_core::lookup" "Store lookup" id q member]
      | some (.error _) => []
      | none => [⟨.warn, "mailrule_core::lookup", "Store lookup timed out",
          [("store", .shown id), ("timeout_ms", .number timeout)]⟩]

def request (st : StoreState) (timeout : Nat) (r : LookupRule) (e : Envelope) : List LogEvent :=
  match r.request e with
  | .ok (some (id, q)) => query st timeout id q
  | _ => []

def lookup (en : Engine) (name : String) (e : Envelope) : List LogEvent :=
  match en.rules.lookups.find? name with
  | none => []
  | some r =>
    rule r.rule e ++ request en.state en.timeout r e ++
      evaluated "Evaluated lookup rule" name (en.lookup name e).1

def run (en : Engine) (x : Expectation) (e : Envelope) : List LogEvent :=
  match x.kind with
  | .eval => eval en.rules x.name e
  | .lookup => lookup en x.name e

def verify (e : Envelope) : Engine → List Expectation → List LogEvent
  | _, [] => []
  | en, x :: rest => run en x e ++ verify e (en.run x.kind x.name e).2 rest

end Trace
end EnvelopeRules
