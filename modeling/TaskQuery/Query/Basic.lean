import TaskQuery.Query.Directive
import TaskQuery.Text.Digit

set_option autoImplicit false

namespace TaskQuery

structure Query where
  filters : List Filter := []
  sorters : List Sorter := []
  groupers : List Grouper := []
  layout : Layout := {}

def Query.add (query : Query) : Directive → Query
  | .explain => { query with layout.explained := true }
  | .short short => { query with layout.short := short }
  | .visibility element hidden => { query with layout := query.layout.setHidden element hidden }
  | .display dates => { query with layout.dates := dates }
  | .sort sorter => { query with sorters := query.sorters ++ [sorter] }
  | .group grouper => { query with groupers := query.groupers ++ [grouper] }
  | .filter filter => { query with filters := query.filters ++ [filter] }

def Query.of (directives : List Directive) : Query :=
  directives.foldl add {}

structure QueryError where
  number : Nat
  error : CompileError
  deriving DecidableEq

def QueryError.text (error : QueryError) : Text :=
  "line " ++ Text.ofNat error.number ++ ": " ++ error.error.text

def isRemark (line : Text) : Bool :=
  line = [] || line.head? = some '#'

def numberedLines (source : Text) : List (Text × Nat) :=
  ((source.lines.map Text.trim).zipIdx 1).filter (!isRemark ·.1)

def readLine (fields : List Field) (line : Text × Nat) : Except QueryError Directive :=
  (Directive.read fields line.1).mapError (QueryError.mk line.2)

def readDirectives (fields : List Field) (source : Text) : Except QueryError (List Directive) :=
  (numberedLines source).mapM (readLine fields)

def Query.read (fields : List Field) (source : Text) : Except QueryError Query :=
  (readDirectives fields source).map .of

end TaskQuery
