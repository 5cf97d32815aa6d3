import MeteringAlarms.Toml.Lexeme

/-!
# TOML tables

Values and how a document builds them up. A table remembers how it came about, because that decides
what may still be added to it: a header may open a table that so far was only passed through, once;
dotted keys may add to tables that dotted keys made; an inline table is complete as it is written.
-/

namespace MeteringAlarms.Toml

/-- How a table came about. -/
inductive Origin where
  /-- By a header, or as the document itself. -/
  | header
  /-- On the way to a table of a longer header. -/
  | passage
  | dotted
  | inline
  deriving DecidableEq

inductive Value where
  | string (text : String)
  | integer (value : Int)
  | float (value : FloatValue)
  | boolean (value : Bool)
  | moment (text : String)
  | array (items : List Value)
  | table (origin : Origin) (entries : List (String × Value))
  /-- The tables of headers in double brackets, the first one first. -/
  | tables (elements : List (List (String × Value)))

abbrev Entries := List (String × Value)

def find? (key : String) (entries : Entries) : Option Value :=
  (entries.find? fun entry ↦ entry.1 = key).map Prod.snd

def put (key : String) (value : Value) (entries : Entries) : Entries :=
  entries.filter (fun entry ↦ entry.1 ≠ key) ++ [(key, value)]

/--
Changes the table at the end of a path, making the tables on the way that are missing. A path may
not lead through a value. A path of dotted keys may lead only through tables that no header opened;
a path of a header leads on through the last table of an array.
-/
def alterAt (dotted : Bool) (origin : Origin) (change : Origin → Entries → Option Entries) :
    List String → Entries → Option Entries
  | [], entries => change origin entries
  | key :: path, entries =>
    match find? key entries with
    | none =>
      let made : Origin := if dotted then .dotted else .passage
      (alterAt dotted made change path []).map fun inner ↦ put key (.table made inner) entries
    | some (.table inner entries') =>
      if inner = .inline ∨ (dotted ∧ inner = .header) then none
      else (alterAt dotted inner change path entries').map fun changed ↦
        put key (.table inner changed) entries
    | some (.tables elements) =>
      match elements.reverse with
      | last :: before =>
        (alterAt dotted .header change path last).map fun changed ↦
          put key (.tables (changed :: before).reverse) entries
      | [] => none
    | some _ => none

/-- Adds a value under a dotted key to a table. No key is written twice. -/
def assign (origin : Origin) (keys : List String) (value : Value) (entries : Entries) :
    Option Entries :=
  match keys.reverse with
  | [] => none
  | key :: path =>
    let add (here : Origin) (entries : Entries) : Option Entries :=
      -- Dotted keys add to tables that dotted keys made and to no other.
      if (here == .dotted) == path.isEmpty then none
      else if (find? key entries).isSome then none
      else some (put key value entries)
    alterAt true origin add path.reverse entries

/-- A table in the making: where it belongs and what it has so far. -/
structure Section where
  path : List String
  isElement : Bool
  entries : Entries

/-- Puts a finished table in its place. -/
def close (done : Section) (document : Entries) : Option Entries :=
  match done.path.reverse with
  | [] => some done.entries
  | key :: path =>
    let add (_ : Origin) (entries : Entries) : Option Entries :=
      if done.isElement then
        match find? key entries with
        | none => some (put key (.tables [done.entries]) entries)
        | some (.tables elements) => some (put key (.tables (elements ++ [done.entries])) entries)
        | some _ => none
      else some (put key (.table .header done.entries) entries)
    alterAt false .header add path.reverse document

/-- Opens the table of a header; a table that was only passed through keeps what it has. -/
def openTable (keys : List String) (document : Entries) : Option (Section × Entries) :=
  match keys.reverse with
  | [] => none
  | key :: path => do
    let there (_ : Origin) (entries : Entries) : Option Entries := some entries
    let document ← alterAt false .header there path.reverse document
    let parent ← lookUp path.reverse document
    let kept ← match find? key parent with
      | none => some []
      | some (.table .passage entries) => some entries
      | some _ => none
    let drop (_ : Origin) (entries : Entries) : Option Entries :=
      some (entries.filter fun entry ↦ entry.1 ≠ key)
    let document ← alterAt false .header drop path.reverse document
    some (⟨keys, false, kept⟩, document)
where
  /-- The entries at the end of a path that is there. -/
  lookUp : List String → Entries → Option Entries
    | [], entries => some entries
    | key :: path, entries =>
      match find? key entries with
      | some (.table _ inner) => lookUp path inner
      | some (.tables elements) => elements.getLast?.bind (lookUp path)
      | _ => none

/-- Opens one more table of an array. -/
def openElement (keys : List String) (document : Entries) : Option (Section × Entries) :=
  match keys.reverse with
  | [] => none
  | key :: path => do
    let check (_ : Origin) (entries : Entries) : Option Entries :=
      match find? key entries with
      | none | some (.tables _) => some entries
      | some _ => none
    let document ← alterAt false .header check path.reverse document
    some (⟨keys, true, []⟩, document)

end MeteringAlarms.Toml
