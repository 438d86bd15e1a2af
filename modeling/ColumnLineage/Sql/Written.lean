import ColumnLineage.Sql.Tree

/-!
# The written form of a tree

A tree has one canonical text: keywords in upper case, one blank between words, every literal with
its own quotes.  A call without column inputs is known by this text.

## Main definitions

* `doubledQuotes`: the content of a quoted text with its quotes doubled.
* `Ident.text`, `ObjectName.text`: names.
* `Expr.text`, `Query.text`, `Source.text`: trees.
-/

namespace ColumnLineage.Sql

/-- The content of a quoted text with its quotes doubled.  A quote that is doubled already, or that
follows a backslash, is left alone; `afterBackslash` tells of the character in front. -/
def doubledQuotes (quote : Char) (afterBackslash : Bool) : List Char → List Char
  | [] => []
  | [c] => if c == quote && !afterBackslash then [c, c] else [c]
  | c :: d :: more =>
    if c == quote then
      if afterBackslash then c :: doubledQuotes quote true (d :: more)
      else if d == quote then c :: d :: doubledQuotes quote false more
      else c :: c :: doubledQuotes quote false (d :: more)
    else c :: doubledQuotes quote (c == '\\') (d :: more)

/-- A text between quotes, with the quotes inside it doubled. -/
def quotedText (quote : Char) (s : String) : String :=
  String.singleton quote ++ String.ofList (doubledQuotes quote false s.toList) ++
    String.singleton quote

namespace Ident

/-- A name in the quotes it was written in. -/
def text (name : Ident) : String :=
  match name.quote with
  | none => name.value
  | some '[' => "[" ++ name.value ++ "]"
  | some quote => quotedText quote name.value

end Ident

namespace NamePart

/-- One part of a dotted name as it is written. -/
def text : NamePart → String
  | .ident name => name.text
  | .computed text => text

end NamePart

namespace ObjectName

/-- A dotted name as it is written. -/
def text (name : ObjectName) : String :=
  ".".intercalate (name.parts.map NamePart.text)

end ObjectName

namespace Alias

/-- An alias as it is written, with the blank in front. -/
def text (label : Alias) : String :=
  " " ++ (if label.explicit then "AS " else "") ++ label.name.text ++
    (if label.columns.isEmpty then "" else " (" ++ ", ".intercalate label.columns ++ ")")

/-- The alias of a source that may have one, as it is written. -/
def optionalText : Option Alias → String
  | none => ""
  | some label => label.text

end Alias

namespace BinaryOperator

/-- The spelling of an operator. -/
def text : BinaryOperator → String
  | and => "AND"
  | or => "OR"
  | eq => "="
  | other spelling => spelling

end BinaryOperator

namespace JoinOperator

/-- The words of a join operator. -/
def text : JoinOperator → String
  | join => "JOIN"
  | inner => "INNER JOIN"
  | left => "LEFT JOIN"
  | leftOuter => "LEFT OUTER JOIN"
  | right => "RIGHT JOIN"
  | rightOuter => "RIGHT OUTER JOIN"
  | full => "FULL JOIN"
  | cross => "CROSS JOIN"
  | semi => "SEMI JOIN"
  | leftSemi => "LEFT SEMI JOIN"
  | rightSemi => "RIGHT SEMI JOIN"
  | anti => "ANTI JOIN"
  | leftAnti => "LEFT ANTI JOIN"
  | rightAnti => "RIGHT ANTI JOIN"
  | straight => "STRAIGHT_JOIN"
  | asOf => "ASOF JOIN"
  | crossApply => "CROSS APPLY"
  | outerApply => "OUTER APPLY"

end JoinOperator

/-- A piece of a layout around the texts of its parts. -/
def Piece.fill (texts : List String) : Piece → String
  | .text t => t
  | .part position => texts.getD position ""
  | .parts start separator => separator.intercalate (texts.drop start)

/-- A layout around the texts of its parts. -/
def Layout.fill (layout : Layout) (texts : List String) : String :=
  String.join (layout.map (Piece.fill texts))

/-- Texts, each with a blank in front. -/
def spacedTexts (texts : List String) : String :=
  String.join (texts.map fun t => if t.isEmpty then "" else " " ++ t)

mutual

/-- The written form of an expression. -/
def Expr.text : Expr → String
  | .column name => name.text
  | .path names => ".".intercalate (names.map Ident.text)
  | .nested inner => "(" ++ inner.text ++ ")"
  | .binary left op right => left.text ++ " " ++ op.text ++ " " ++ right.text
  | .call name layout parts => name.text ++ Layout.fill layout (nodeTexts parts)
  | .access root chain => root.text ++ chainText chain
  | .phrase _ layout parts => Layout.fill layout (nodeTexts parts)

/-- The written form of a part. -/
def Node.text : Node → String
  | .expr e => e.text
  | .query q => q.text
  | .source s => s.text
  | .relation name => name.text
  | .phrase layout parts => Layout.fill layout (nodeTexts parts)

/-- The written forms of some parts. -/
def nodeTexts : List Node → List String
  | [] => []
  | n :: more => n.text :: nodeTexts more

/-- The written forms of fields and elements. -/
def chainText : List Node → String
  | [] => ""
  | .expr e :: more => "." ++ e.text ++ chainText more
  | n :: more => n.text ++ chainText more

/-- The written forms of some expressions. -/
def exprTexts : List Expr → List String
  | [] => []
  | e :: more => e.text :: exprTexts more

/-- A clause of one expression behind its keyword. -/
def clauseText (keyword : String) : Option Expr → String
  | none => ""
  | some e => " " ++ keyword ++ " " ++ e.text

/-- The written form of a query. -/
def Query.text : Query → String
  | ⟨recursive, ctes, body, tail⟩ =>
    (if ctes.isEmpty then ""
      else "WITH " ++ (if recursive then "RECURSIVE " else "") ++
        ", ".intercalate (cteTexts ctes) ++ " ") ++
      body.text ++ spacedTexts (nodeTexts tail)

/-- The written form of a definition. -/
def Cte.text : Cte → String
  | ⟨label, materialized, query, origin⟩ =>
    label.name.text ++
      (if label.columns.isEmpty then "" else " (" ++ ", ".intercalate label.columns ++ ")") ++
      " AS " ++ materialized ++ "(" ++ query.text ++ ")" ++
      (match origin with
        | none => ""
        | some name => " FROM " ++ name.text)

/-- The written forms of some definitions. -/
def cteTexts : List Cte → List String
  | [] => []
  | cte :: more => cte.text :: cteTexts more

/-- The written form of what a query consists of. -/
def Body.text : Body → String
  | .select s => s.text
  | .query q => "(" ++ q.text ++ ")"
  | .combined left op right => left.text ++ " " ++ op ++ " " ++ right.text
  | .other layout parts => Layout.fill layout (nodeTexts parts)

/-- The written form of a SELECT. -/
def Select.text : Select → String
  | ⟨form, lead, items, target, sources, views, filter, hierarchy, grouping, groupingTail,
      arrangement, having, tail⟩ =>
    let trees := ", ".intercalate (treeTexts sources)
    (match form with
      | .plain => "SELECT"
      | .fromFirst => "FROM " ++ trees ++ " SELECT"
      | .fromOnly => "FROM " ++ trees) ++
      spacedTexts (nodeTexts lead) ++
      (if items.isEmpty then "" else " " ++ ", ".intercalate (itemTexts items)) ++
      spacedTexts (nodeTexts target) ++
      (if form == .plain && !sources.isEmpty then " FROM " ++ trees else "") ++
      spacedTexts (nodeTexts views) ++ clauseText "WHERE" filter ++
      spacedTexts (nodeTexts hierarchy) ++
      (if grouping.isEmpty then "" else " GROUP BY " ++ ", ".intercalate (exprTexts grouping)) ++
      spacedTexts (nodeTexts groupingTail) ++ spacedTexts (nodeTexts arrangement) ++
      clauseText "HAVING" having ++ spacedTexts (nodeTexts tail)

/-- The written form of an item of a select list. -/
def SelectItem.text : SelectItem → String
  | .star options => "*" ++ spacedTexts (nodeTexts options)
  | .qualifiedStar name options => name.text ++ ".*" ++ spacedTexts (nodeTexts options)
  | .exprStar e options => e.text ++ ".*" ++ spacedTexts (nodeTexts options)
  | .expr e => e.text
  | .aliased e label => e.text ++ " AS " ++ label.text

/-- The written forms of a select list. -/
def itemTexts : List SelectItem → List String
  | [] => []
  | item :: more => item.text :: itemTexts more

/-- The written form of a source and what is joined to it. -/
def FromTree.text : FromTree → String
  | ⟨relation, joins⟩ => relation.text ++ joinsText joins

/-- The written forms of a FROM clause. -/
def treeTexts : List FromTree → List String
  | [] => []
  | tree :: more => tree.text :: treeTexts more

/-- The written form of a source. -/
def Source.text : Source → String
  | .table name arguments label extras =>
    name.text ++ String.join (nodeTexts arguments) ++ Alias.optionalText label ++
      spacedTexts (nodeTexts extras)
  | .derived lateral query label extras =>
    (if lateral then "LATERAL " else "") ++ "(" ++ query.text ++ ")" ++ Alias.optionalText label ++
      spacedTexts (nodeTexts extras)
  | .joined tree label => "(" ++ tree.text ++ ")" ++ Alias.optionalText label
  | .other layout parts label =>
    Layout.fill layout (nodeTexts parts) ++ Alias.optionalText label

/-- The written form of a joined source. -/
def Join.text : Join → String
  | ⟨relation, isGlobal, operator, matching, constraint⟩ =>
    (if isGlobal then " GLOBAL" else "") ++ constraint.lead ++ " " ++ operator.text ++ " " ++
      relation.text ++ matchingText matching ++ constraint.text

/-- The condition of an ASOF join. -/
def matchingText : Option Expr → String
  | none => ""
  | some e => " MATCH_CONDITION (" ++ e.text ++ ")"

/-- The written forms of some joined sources. -/
def joinsText : List Join → String
  | [] => ""
  | join :: more => join.text ++ joinsText more

/-- What a restriction puts in front of the join operator. -/
def JoinConstraint.lead : JoinConstraint → String
  | .natural => " NATURAL"
  | _ => ""

/-- What a restriction puts behind the joined source. -/
def JoinConstraint.text : JoinConstraint → String
  | .on predicate => " ON " ++ predicate.text
  | .using names _ => " USING(" ++ ", ".intercalate (names.map ObjectName.text) ++ ")"
  | .natural => ""
  | .none => ""

end

end ColumnLineage.Sql
