/-!
# The words of a query

The kinds of joins, comparisons, connectives, arithmetic operations, unions and
directions, each with the words that stand for it in a statement.
-/

namespace SqlRender

/-- How two tables are joined. -/
inductive JoinKind where
  | inner
  | left
  | right
  | full
  | cross
  /-- A join without a further word. -/
  | plain
  deriving DecidableEq

/-- The words of a join. -/
def JoinKind.words : JoinKind → String
  | inner => "INNER JOIN"
  | left => "LEFT JOIN"
  | right => "RIGHT JOIN"
  | full => "FULL JOIN"
  | cross => "CROSS JOIN"
  | plain => "JOIN"

/-- How a predicate compares its two sides. -/
inductive Comparison where
  | eq
  | ne
  | gt
  | ge
  | lt
  | le
  | like
  | notLike
  | isIn
  | notIn
  | between
  | notBetween
  | isNull
  | isNotNull
  deriving DecidableEq

/-- The words of a comparison. -/
def Comparison.words : Comparison → String
  | eq => "="
  | ne => "<>"
  | gt => ">"
  | ge => ">="
  | lt => "<"
  | le => "<="
  | like => "LIKE"
  | notLike => "NOT LIKE"
  | isIn => "IN"
  | notIn => "NOT IN"
  | between => "BETWEEN"
  | notBetween => "NOT BETWEEN"
  | isNull => "IS NULL"
  | isNotNull => "IS NOT NULL"

/-- How two conditions are connected. -/
inductive Connective where
  | and
  | or
  deriving DecidableEq

/-- The word of a connective. -/
def Connective.word : Connective → String
  | .and => "AND"
  | .or => "OR"

/-- An operation on two numbers. -/
inductive Arithmetic where
  | add
  | sub
  | mul
  | div
  deriving DecidableEq

/-- The sign of an operation. -/
def Arithmetic.word : Arithmetic → String
  | add => "+"
  | sub => "-"
  | mul => "*"
  | div => "/"

/-- Whether a union keeps repeated rows. -/
inductive UnionKind where
  | distinct
  | all
  deriving DecidableEq

/-- The words of a union. -/
def UnionKind.words : UnionKind → String
  | distinct => "UNION"
  | all => "UNION ALL"

/-- The direction of an ordering. -/
inductive Direction where
  | ascending
  | descending
  deriving DecidableEq

/-- The word of a direction. -/
def Direction.word : Direction → String
  | ascending => "ASC"
  | descending => "DESC"

/-- Where an ordering puts the rows without a value. -/
inductive NullOrder where
  | first
  | last
  deriving DecidableEq

/-- The words of a place of the rows without a value. -/
def NullOrder.words : NullOrder → String
  | first => "NULLS FIRST"
  | last => "NULLS LAST"

end SqlRender
