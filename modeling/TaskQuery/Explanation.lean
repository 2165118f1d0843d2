import TaskQuery.Text.Quoted

set_option autoImplicit false

namespace TaskQuery

inductive Explanation where
  | leaf (description : Text)
  | node (description : Text) (children : List Explanation)

def Explanation.description : Explanation → Text
  | .leaf description | .node description _ => description

def Explanation.children : Explanation → List Explanation
  | .leaf _ => []
  | .node _ children => children

mutual

def Explanation.render (indentation : Text) : Explanation → Text
  | .leaf description => indentation ++ description
  | .node description children =>
    indentation ++ description ++ renderBelow (indentation ++ "  ") children

def Explanation.renderBelow (indentation : Text) : List Explanation → Text
  | [] => []
  | child :: rest => '\n' :: child.render indentation ++ renderBelow indentation rest

end

def Explanation.text (explanation : Explanation) : Text :=
  explanation.render []

mutual

def Explanation.inspect : Explanation → Text
  | .leaf description => "Leaf(" ++ description.quoted ++ ")"
  | .node description children =>
    "Node \x7b description: " ++ description.quoted ++ ", children: [" ++
      inspectAll children ++ "] \x7d"

def Explanation.inspectAll : List Explanation → Text
  | [] => []
  | [child] => child.inspect
  | child :: rest => child.inspect ++ ", " ++ inspectAll rest

end

end TaskQuery
