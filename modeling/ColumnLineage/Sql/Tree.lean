/-!
# Syntax trees

The tree of a parsed query holds apart what lineage depends on: column references, nesting, the
sources a SELECT reads and how they are joined, and the clauses that filter.  Every other construct
is a *phrase*: its parts in the order in which they are visited, and the layout that writes it.

## Main definitions

* `Expr`: an expression.
* `Query`, `Body`, `Select`: queries, what they consist of, and their clauses.
* `Source`, `FromTree`, `Join`: what a FROM clause names.
* `Statement`: a query, or another statement with the parts that can hold queries.

## Design notes

A layout refers to the parts of its phrase by position, since a few constructs are written in
another order than the one in which their parts are visited.
-/

namespace ColumnLineage.Sql

/-- A name as it stands in a query: its value, and the quote it was written in. -/
structure Ident where
  value : String
  quote : Option Char
deriving DecidableEq, Repr, Inhabited

/-- One part of a dotted name. -/
inductive NamePart where
  | ident (name : Ident)
  /-- A call that computes a name, as it is written. -/
  | computed (text : String)
deriving DecidableEq, Repr, Inhabited

/-- A dotted name, such as that of a table or a function. -/
structure ObjectName where
  parts : List NamePart
deriving DecidableEq, Repr, Inhabited

namespace ObjectName

/-- The dotted name of some names. -/
def ofIdents (names : List Ident) : ObjectName :=
  ⟨names.map .ident⟩

/-- The values of the parts that are names, in order. -/
def values (name : ObjectName) : List String :=
  name.parts.filterMap fun
    | .ident name => some name.value
    | .computed _ => none

end ObjectName

/-- The alias of a source, with the names of its columns as written. -/
structure Alias where
  /-- The keyword AS stands in front. -/
  explicit : Bool
  name : Ident
  columns : List String
deriving DecidableEq, Repr, Inhabited

/-- A piece of the written form of a phrase. -/
inductive Piece where
  | text (text : String)
  /-- The part at a position. -/
  | part (position : Nat)
  /-- All parts from a position on, with a separator between them. -/
  | parts (start : Nat) (separator : String)
deriving DecidableEq, Repr

/-- How a phrase is written around its parts. -/
abbrev Layout := List Piece

/-- The operators that lineage tells apart, and all others by their spelling. -/
inductive BinaryOperator where
  | and
  | or
  | eq
  | other (spelling : String)
deriving DecidableEq, Repr

/-- Where a SELECT has its sources. -/
inductive SelectForm where
  /-- `SELECT … FROM …`. -/
  | plain
  /-- `FROM … SELECT …`. -/
  | fromFirst
  /-- `FROM …` alone. -/
  | fromOnly
deriving DecidableEq, Repr

/-- What lineage asks of an expression that is a phrase. -/
inductive PhraseKind where
  /-- A CASE expression. -/
  | case
  /-- A construct that is written like a call, such as a cast. -/
  | functionLike
  /-- A single literal. -/
  | value
  | other
deriving DecidableEq, Repr

/-- The operator that joins two sources. -/
inductive JoinOperator where
  | join
  | inner
  | left
  | leftOuter
  | right
  | rightOuter
  | full
  | cross
  | semi
  | leftSemi
  | rightSemi
  | anti
  | leftAnti
  | rightAnti
  | straight
  | asOf
  | crossApply
  | outerApply
deriving DecidableEq, Repr

mutual

/-- An expression. -/
inductive Expr where
  /-- A single name. -/
  | column (name : Ident)
  /-- Names with periods between them. -/
  | path (names : List Ident)
  /-- An expression in parentheses. -/
  | nested (inner : Expr)
  /-- Two operands and the operator between them. -/
  | binary (left : Expr) (op : BinaryOperator) (right : Expr)
  /-- A function call; the layout writes what follows the name. -/
  | call (name : ObjectName) (layout : Layout) (parts : List Node)
  /-- Fields and elements of a value; a field is an expression, an element a phrase. -/
  | access (root : Expr) (chain : List Node)
  | phrase (kind : PhraseKind) (layout : Layout) (parts : List Node)

/-- A part of a phrase. -/
inductive Node where
  | expr (e : Expr)
  | query (q : Query)
  | source (s : Source)
  /-- The name of a table outside a FROM clause. -/
  | relation (name : ObjectName)
  | phrase (layout : Layout) (parts : List Node)

/-- A query with the definitions in front of its body and the clauses behind it. -/
structure Query where
  recursive : Bool
  ctes : List Cte
  body : Body
  tail : List Node

/-- A named query of a WITH list. -/
structure Cte where
  label : Alias
  materialized : String
  query : Query
  /-- The name behind FROM, if one stands behind the definition. -/
  origin : Option Ident

/-- What a query consists of. -/
inductive Body where
  | select (s : Select)
  | query (q : Query)
  | combined (left : Body) (op : String) (right : Body)
  /-- Rows, a table, or a statement that returns rows. -/
  | other (layout : Layout) (parts : List Node)

/-- A SELECT with its clauses in the order in which they are visited. -/
structure Select where
  form : SelectForm
  /-- A hint, modifiers, DISTINCT and TOP. -/
  lead : List Node
  items : List SelectItem
  /-- INTO. -/
  target : List Node
  sources : List FromTree
  /-- Lateral views and PREWHERE. -/
  views : List Node
  filter : Option Expr
  /-- START WITH and CONNECT BY. -/
  hierarchy : List Node
  grouping : List Expr
  /-- GROUP BY ALL, and what modifies a grouping. -/
  groupingTail : List Node
  /-- CLUSTER BY, DISTRIBUTE BY and SORT BY. -/
  arrangement : List Node
  having : Option Expr
  /-- Named windows and QUALIFY. -/
  tail : List Node

/-- An item of a select list. -/
inductive SelectItem where
  | star (options : List Node)
  | qualifiedStar (name : ObjectName) (options : List Node)
  | exprStar (e : Expr) (options : List Node)
  | expr (e : Expr)
  | aliased (e : Expr) (label : Ident)

/-- A source and what is joined to it. -/
structure FromTree where
  relation : Source
  joins : List Join

/-- One source of a FROM clause. -/
inductive Source where
  | table (name : ObjectName) (arguments : List Node) (label : Option Alias) (extras : List Node)
  | derived (lateral : Bool) (query : Query) (label : Option Alias) (extras : List Node)
  | joined (tree : FromTree) (label : Option Alias)
  /-- A table function, an unnested array, a pivot and the like. -/
  | other (layout : Layout) (parts : List Node) (label : Option Alias)

/-- A joined source. -/
structure Join where
  relation : Source
  global : Bool
  operator : JoinOperator
  /-- The condition by which rows of an ASOF join match. -/
  matching : Option Expr
  constraint : JoinConstraint

/-- What restricts a join. -/
inductive JoinConstraint where
  | on (predicate : Expr)
  /-- Columns by their names, with what is visited in these. -/
  | using (names : List ObjectName) (inside : List Node)
  | natural
  | none

end

instance : Inhabited Expr := ⟨.column default⟩
instance : Inhabited Node := ⟨.phrase [] []⟩

/-- What lineage and other statements ask of a statement that is not a query. -/
inductive StatementKind where
  | insert
  | createTable
  | createView
  | explain
  | other
deriving DecidableEq, Repr

/-- A statement: a query, or another statement with its parts in visiting order. -/
inductive Statement where
  | query (q : Query)
  | other (kind : StatementKind) (parts : List Node)

/-- A piece of a phrase whose parts are written in the order in which they are visited. -/
inductive Segment where
  | text (text : String)
  | node (n : Node)

instance : Coe String Segment := ⟨.text⟩
instance : Coe Node Segment := ⟨.node⟩
instance : Coe Expr Segment := ⟨fun e => .node (.expr e)⟩

namespace Segment

/-- The parts of some segments. -/
def parts (segments : List Segment) : List Node :=
  segments.filterMap fun
    | .text _ => none
    | .node n => some n

/-- The layout of some segments, whose first part has the position `start`. -/
def layoutFrom : Nat → List Segment → Layout
  | _, [] => []
  | start, .text t :: more => .text t :: layoutFrom start more
  | start, .node _ :: more => .part start :: layoutFrom (start + 1) more

/-- The layout of some segments. -/
def layout (segments : List Segment) : Layout :=
  layoutFrom 0 segments

/-- Segments with commas between them. -/
def commas (items : List (List Segment)) : List Segment :=
  [Segment.text ", "].intercalate items

/-- Segments with blanks between them. -/
def spaced (items : List (List Segment)) : List Segment :=
  [Segment.text " "].intercalate items

/-- Segments behind a text. -/
def behind (head : String) (segments : List Segment) : List Segment :=
  Segment.text head :: segments

/-- Segments between two texts. -/
def between (opening : String) (segments : List Segment) (closing : String) : List Segment :=
  Segment.text opening :: (segments ++ [Segment.text closing])

end Segment

namespace Node

/-- The phrase that consists of some segments. -/
def written (segments : List Segment) : Node :=
  .phrase (Segment.layout segments) (Segment.parts segments)

/-- A phrase without parts. -/
def words (text : String) : Node :=
  .phrase [.text text] []

/-- Parts with a separator between them. -/
def list (separator : String) (parts : List Node) : Node :=
  .phrase [.parts 0 separator] parts

/-- A part that is visited here and written as a part of something else. -/
def hidden (n : Node) : Node :=
  .phrase [] [n]

end Node

namespace Expr

/-- The phrase of a kind that consists of some segments. -/
def written (kind : PhraseKind) (segments : List Segment) : Expr :=
  .phrase kind (Segment.layout segments) (Segment.parts segments)

/-- A phrase of no special kind. -/
def plain (segments : List Segment) : Expr :=
  written .other segments

/-- An expression without parts that is no single literal. -/
def words (text : String) : Expr :=
  .phrase .other [.text text] []

/-- A single literal. -/
def literal (text : String) : Expr :=
  .phrase .value [.text text] []

end Expr

end ColumnLineage.Sql
