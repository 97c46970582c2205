import BudgetNotes.Toml.Value

/-!
# TOML documents

A document is a list of assignments, each with the full path of its key, the
table header it stands under included, and a list of tables, each with how it
came about.

A key is assigned once, a table has one header, and nothing is both a table
and a value; a document that breaks this is refused as one with bad syntax is.
-/

namespace BudgetNotes.Toml

/-- How a table came about. -/
inductive Origin where
  /-- By its own header. -/
  | header
  /-- As the last item of an array of tables. -/
  | item
  /-- By the header of a table within it. -/
  | outer
  /-- By a key with points in it. -/
  | dotted
deriving DecidableEq

/-- A document that is being read: its assignments, its tables, and the path of the header that
its next lines stand under. -/
structure Document where
  values : List (Path × Value)
  tables : List (Path × Origin)
  current : Path

namespace Document

/-- The document without lines. -/
def empty : Document := ⟨[], [], []⟩

/-- The value assigned at a path. -/
def value? (doc : Document) (path : Path) : Option Value := doc.values.lookup path

/-- How the table at a path came about. -/
def origin? (doc : Document) (path : Path) : Option Origin := doc.tables.lookup path

/-- Whether there is nothing at a path. -/
def isFree (doc : Document) (path : Path) : Bool :=
  (doc.value? path).isNone && (doc.origin? path).isNone

/-- Adds a table, or says anew how one came about. -/
def addTable (doc : Document) (path : Path) (origin : Origin) : Document :=
  { doc with tables := (path, origin) :: doc.tables }

/-- The paths from below `start` down to just above `start ++ key`. -/
def between (start key : Path) : List Path :=
  (List.range (key.length - 1)).map fun n => start ++ key.take (n + 1)

/-- Passes through a table on the way to one within it, and opens it if there is none. A key with
points does not reach into a table that has a header. -/
def enter? (origin : Origin) (doc : Document) (path : Path) : Option Document :=
  if (doc.value? path).isSome then none
  else match doc.origin? path with
    | none => some (doc.addTable path origin)
    | some .header => if origin = .dotted then none else some doc
    | some _ => some doc

/-- Assigns a value under the current header. A key with points adds only to tables that such keys
opened. -/
def assign? (doc : Document) (key : Path) (value : Value) : Option Document := do
  let path := doc.current ++ key
  let doc ← (between doc.current key).foldlM (enter? .dotted) doc
  if doc.isFree path && (key.length ≤ 1 || doc.origin? path.dropLast = some .dotted) then
    some { doc with values := (path, value) :: doc.values }
  else none

/-- Opens a table by its header. Only headers of tables within it may have opened it before. -/
def openTable? (doc : Document) (path : Path) : Option Document := do
  let doc ← (between [] path).foldlM (enter? .outer) doc
  if doc.isFree path || doc.origin? path = some .outer then
    some { doc.addTable path .header with current := path }
  else none

/-- Opens the next table of an array of tables; what the last one held is out of reach. -/
def openItem? (doc : Document) (path : Path) : Option Document := do
  let doc ← (between [] path).foldlM (enter? .outer) doc
  if doc.isFree path || doc.origin? path = some .item then
    some {
      values := doc.values.filter fun (p, _) => !path.isPrefixOf p
      tables := (path, .item) :: doc.tables.filter fun (p, _) => !path.isPrefixOf p
      current := path }
  else none

/-- The members of the table at a path. Of its inner tables only those count that hold nothing. -/
def members (doc : Document) (path : Path) : List (Path × Value) :=
  let isWithin (p : Path) : Bool := path.isPrefixOf p && path != p
  let paths := doc.values.map Prod.fst ++ doc.tables.map Prod.fst
  let hollow := (doc.tables.map Prod.fst).eraseDups.filter fun p =>
    isWithin p && !paths.any fun q => p.isPrefixOf q && p != q
  let inner := doc.values ++ hollow.map fun p =>
    (p, if doc.origin? p = some .item then .other else .table [])
  (inner.filter fun (p, _) => isWithin p).map fun (p, value) => (p.drop path.length, value)

/-- The value of a top-level key. -/
def topLevel? (doc : Document) (key : String) : Option Value :=
  (doc.value? [key]).or ((doc.origin? [key]).map fun origin =>
    if origin = .item then .other else .table (doc.members [key]))

end Document

/-! ## Reading -/

def readHeader? (doc : Document) : List Char → Option (Document × List Char)
  | '[' :: cs => do
    match ← readKey cs with
    | (path, ']' :: ']' :: rest) => (doc.openItem? path).map (·, rest)
    | _ => none
  | cs => do
    match ← readKey cs with
    | (path, ']' :: rest) => (doc.openTable? path).map (·, rest)
    | _ => none

def readAssignment? (doc : Document) (cs : List Char) : Option (Document × List Char) := do
  match ← readKey cs with
  | (key, '=' :: rest) =>
    let (value, rest) ← readValue (rest.length + 1) maxDepth (skipBlank rest)
    (doc.assign? key value).map (·, rest)
  | _ => none

/-- Reads the lines of a document. -/
def readLines (doc : Document) : Nat → List Char → Option Document
  | 0, _ => some doc
  | fuel + 1, cs =>
    match skipBlank cs with
    | [] => some doc
    | '[' :: rest => do
      let (doc, rest) ← readHeader? doc rest
      let rest ← endLine? rest
      readLines doc fuel rest
    | c :: rest =>
      if c = '#' || c = '\n' || c = '\r' then (endLine? (c :: rest)).bind (readLines doc fuel)
      else do
        let (doc, rest) ← readAssignment? doc (c :: rest)
        let rest ← endLine? rest
        readLines doc fuel rest

/-- Reads a document; a byte order mark may lead it. -/
def parse? (s : String) : Option Document :=
  let cs := match s.toList with
    | '\uFEFF' :: cs => cs
    | cs => cs
  readLines .empty (cs.length + 1) cs

end BudgetNotes.Toml
